import SnapshotViewer.Catalog.Basic
import SnapshotViewer.Json.Decoder

/-!
# Catalogs as documents

The reading of a catalog.  Descriptions of collections that this library does not know are read
like the others and then left out.
-/

namespace SnapshotViewer

open Json

/-- The words for the modes. -/
def Mode.decoder : Decoder Mode := Decoder.tag [("live", .live), ("history", .history)]

/-- Reads a span of time. -/
def Timeline.decoder : Decoder Timeline :=
  let int64 := Decoder.int int64Min int64Max
  Decoder.record
    [.mandatory "start" int64 fun t r => { r with start := t },
     .mandatory "end" int64 fun t r => { r with stop := t },
     .mandatory "total_snapshots" (Decoder.int 0 uint64Max) fun n r => { r with total := n.toNat }]
    { start := 0, stop := 0, total := 0 }

/-- Reads the description of a database server. -/
def Instance.decoder : Decoder Instance :=
  Decoder.record
    [.mandatory "database" Decoder.text fun s r => { r with database := s },
     .mandatory "pg_version" Decoder.text fun s r => { r with version := s },
     .defaulted "is_standby" (Decoder.optional Decoder.bool) fun b r => { r with isStandby := b },
     .defaulted "hostname" (Decoder.optional Decoder.text) fun s r => { r with hostname := s }]
    { database := "", version := "" }

/-- Reads a column. -/
def Column.decoder : Decoder Column :=
  Decoder.record
    [.mandatory "key" Decoder.text fun s r => { r with key := s },
     .mandatory "label" Decoder.text fun s r => { r with label := s }]
    { key := "", label := "" }

/-- Reads a view. -/
def View.decoder : Decoder View :=
  Decoder.record
    [.mandatory "key" Decoder.text fun s r => { r with key := s },
     .mandatory "label" Decoder.text fun s r => { r with label := s },
     .defaulted "columns" (Decoder.list Decoder.text) fun cs r => { r with columns := cs },
     .defaulted "default" Decoder.bool fun b r => { r with isDefault := b }]
    { key := "", label := "" }

/-- Reads a drill-down. -/
def DrillDown.decoder : Decoder DrillDown :=
  let optionalText := Decoder.optional Decoder.text
  Decoder.record
    [.mandatory "target" Decoder.text fun s r => { r with target := s },
     .mandatory "via" Decoder.text fun s r => { r with via := s },
     .defaulted "target_field" optionalText fun s r => { r with targetField := s },
     .defaulted "description" Decoder.text fun s r => { r with description := s },
     .defaulted "filter_via" optionalText fun s r => { r with filterVia := s },
     .defaulted "filter_target" optionalText fun s r => { r with filterTarget := s }]
    { target := "", via := "" }

/-- Reads the description of a collection. -/
def Tab.decoder : Decoder Tab :=
  Decoder.record
    [.mandatory "name" Decoder.text fun s r => { r with name := s },
     .defaulted "description" Decoder.text fun s r => { r with description := s },
     .mandatory "entity_id" Decoder.text fun s r => { r with entityId := s },
     .defaulted "columns" (Decoder.list Column.decoder) fun cs r => { r with columns := cs },
     .defaulted "views" (Decoder.list View.decoder) fun vs r => { r with views := vs },
     .defaulted "drill_down" (Decoder.optional DrillDown.decoder)
       fun d r => { r with drillDown := d }]
    { name := "", entityId := "" }

namespace Catalog

/-- The described collections among all those named. -/
def knownTabs (tabs : List (String × Tab)) : List (Collection × Tab) :=
  tabs.filterMap fun (name, t) => (Collection.ofName? name).map (·, t)

/-- Reads a catalog. -/
def decoder : Decoder Catalog :=
  Decoder.record
    [.defaulted "version" Decoder.text fun s c => { c with version := s },
     .mandatory "mode" Mode.decoder fun m c => { c with mode := m },
     .defaulted "timeline" (Decoder.optional Timeline.decoder) fun t c => { c with timeline := t },
     .defaulted "instance" (Decoder.optional Instance.decoder) fun i c => { c with server := i },
     .defaulted "tabs" (Decoder.keyed Tab.decoder) fun ts c => { c with tabs := knownTabs ts }]
    { mode := .live }

/-- Reads a catalog from a text. -/
def ofText (s : String) : Except Cause Catalog := decodeText decoder s

/-- Reads a catalog from a value that is already there. -/
def ofDoc (doc : Doc) : Except Cause Catalog := decodeDoc decoder doc

end Catalog

end SnapshotViewer

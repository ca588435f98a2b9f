import RecordCodec.Dataclass.Source
import RecordCodec.Document.Printer
import RecordCodec.Schema.Placement
import RecordCodec.Text.Highlight
import RecordCodec.Text.Markup
import RecordCodec.Text.Table
import RecordCodec.Text.Wrap

namespace RecordCodec

namespace Slot

def typeText (s : Slot) : String :=
  if s.count = 1 then s.typeName else s!"{s.typeName}[{s.count}]"

def runsText (s : Slot) : String :=
  ", ".intercalate ((s.runs.getD []).map fun r => s!"{r.1}:{r.2}")

def document (s : Slot) : Document :=
  let runs := match s.runs with
    | none => .null
    | some runs => .object (runs.map fun r => (r.1, .int r.2))
  .object [("name", .text s.name), ("type_name", .text s.typeName), ("offset", .int s.offset),
    ("size", .int s.size), ("array_length", .int s.count), ("bits", runs)]

end Slot

namespace Placement

def columns (p : Placement) : List Text.Column :=
  [⟨"Offset" :: p.slots.map fun s => intText s.offset, true⟩,
    ⟨"Size" :: p.slots.map fun s => intText s.size, true⟩,
    ⟨"Type" :: p.slots.map Slot.typeText, false⟩,
    ⟨"Name" :: p.slots.map Slot.name, false⟩,
    ⟨"Bits" :: p.slots.map Slot.runsText, false⟩]

def screenWidth : Nat := 80

def title (p : Placement) : String :=
  s!"[bold cyan]{p.name}[/bold cyan] [yellow]{p.size} bytes[/yellow]"

def titleLines (p : Placement) : List String :=
  Text.wrap screenWidth (Text.highlighted (Text.styledText p.title))

def listing (p : Placement) : String :=
  Dataclass.unlines (p.titleLines ++ Text.tableLines p.columns ++ [""])

def document (p : Placement) : Document :=
  .object [("name", .text p.name), ("size", .int p.size),
    ("fields", .array (p.slots.map Slot.document))]

end Placement

end RecordCodec

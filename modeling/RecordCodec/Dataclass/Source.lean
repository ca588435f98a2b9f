import RecordCodec.Dataclass.Dependencies
import RecordCodec.Text.Lines

namespace RecordCodec.Dataclass

def scalarAnnotation (typeName : String) : String :=
  if typeName ∈ ["u8", "s8", "u16", "s16", "u32", "s32", "u64", "s64"] then "int"
  else if typeName ∈ ["float", "double"] then "float"
  else if typeName = "char" then "str"
  else if typeName = "bool" then "bool"
  else if (Container.ofName? typeName).isSome then "Bitfield"
  else "Any"

variable (found : List Placement)

def annotation (s : Slot) : String :=
  let element :=
    if isPlaced found s.typeName then className s.typeName else scalarAnnotation s.typeName
  if 1 < s.count then "list[" ++ element ++ "]" else element

def layoutArgument (s : Slot) : String :=
  match s.runs with
  | none => ""
  | some runs => ", " ++ (Value.dict (runs.map fun r => (r.1, .int r.2))).written

def readExpression (s : Slot) (position : String) : String :=
  if isPlaced found s.typeName then
    className s.typeName ++ ".read(data, " ++ position ++ ", endianness, codec)"
  else
    "codec.read_value(data, " ++ position ++ ", \"" ++ s.typeName ++ "\", endianness" ++
      layoutArgument s ++ ")[0]"

def writeStatement (s : Slot) (position value : String) : String :=
  if isPlaced found s.typeName then
    value ++ ".write(data, " ++ position ++ ", endianness, codec)"
  else
    "codec.write_value(data, " ++ position ++ ", \"" ++ s.typeName ++ "\", " ++ value ++
      ", endianness" ++ layoutArgument s ++ ")"

def position (s : Slot) : String :=
  "position + " ++ toString s.offset

def elementPosition (s : Slot) : String :=
  position s ++ " + _i * " ++ toString s.elementSize

def readField (s : Slot) : String :=
  let attr := attributeName s.name
  if s.count = 1 then attr ++ "=" ++ readExpression found s (position s)
  else
    attr ++ "=[\n    " ++ readExpression found s (elementPosition s) ++ "\n    for _i in range(" ++
      toString s.count ++ ")\n]"

def writeField (s : Slot) : String :=
  let attr := attributeName s.name
  if s.count = 1 then writeStatement found s (position s) ("self." ++ attr)
  else
    "if len(self." ++ attr ++ ") != " ++ toString s.count ++ ":\n    raise EncodeError(\"" ++
      s.name ++ " must have " ++ toString s.count ++ " elements\")\nfor _i, _item in " ++
      "enumerate(self." ++ attr ++ "):\n    " ++ writeStatement found s (elementPosition s) "_item"

def unlines (lines : List String) : String :=
  String.join (lines.map (· ++ "\n"))

def attributeLine (s : Slot) : String :=
  "    " ++ attributeName s.name ++ ": " ++ annotation found s

def classHead (p : Placement) : List String :=
  ["@dataclass",
    "class " ++ className p.name ++ ":",
    "    \"\"\"" ++ p.name ++ " (" ++ toString p.size ++ " bytes).\"\"\"",
    "",
    "    SIZE: ClassVar[int] = " ++ toString p.size,
    ""]

def boundsCheck (p : Placement) (owner : String) : List String :=
  ["        codec = codec or StructCodec()",
    "        if position < 0 or position + " ++ owner ++ ".SIZE > len(data):",
    "            raise OutOfBounds(f\"" ++ p.name ++ " needs \x7b" ++ owner ++
      ".SIZE\x7d bytes at position \x7bposition\x7d\")"]

def commonParameters : List String :=
  ["        position: int = 0,",
    "        endianness: Endianness = Endianness.BIG,",
    "        codec: StructCodec | None = None,"]

def readMethod (p : Placement) : List String :=
  ["    @classmethod",
    "    def read(",
    "        cls,",
    "        data: bytes | bytearray | memoryview,"] ++
  commonParameters ++
  ["    ) -> Self:"] ++
  boundsCheck p "cls" ++
  ["        return cls("] ++
  (p.slots.map fun s =>
    "            " ++ Text.indentRest 12 (readField found s) ++ ",") ++
  ["        )"]

def writeMethod (p : Placement) : List String :=
  ["    def write(",
    "        self,",
    "        data: bytearray | memoryview,"] ++
  commonParameters ++
  ["    ) -> int:"] ++
  boundsCheck p "self" ++
  (p.slots.map fun s => "        " ++ Text.indentRest 8 (writeField found s)) ++
  ["        return self.SIZE"]

def classLines (p : Placement) : List String :=
  classHead p ++ p.slots.map (attributeLine found) ++ readMethod found p ++ [""] ++
    writeMethod found p

def moduleHead (root runtime : String) : List String :=
  ["\"\"\"Generated struct definitions for " ++ root ++ ".\"\"\"",
    "",
    "from dataclasses import dataclass",
    "from typing import Any, ClassVar, Self",
    "",
    "from " ++ runtime ++
      " import Bitfield, EncodeError, Endianness, OutOfBounds, StructCodec"]

/-- The source text for a record type and the records that it is made of; `runtime` is where the
generated code finds the codec. -/
def render (reg : Registry) (r : RecordType) (runtime : String) : Except Error String := do
  let found ← collect reg r
  checkNames [] found
  if !found.all Placement.isWritable then throw .numberTooLong
  return unlines (moduleHead r.name runtime ++ found.flatMap (classLines found))

def defaultRuntime : String :=
  "packedstruct.codec"

end RecordCodec.Dataclass

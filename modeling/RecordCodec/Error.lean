import RecordCodec.Value.Basic

namespace RecordCodec

inductive ErrorKind where
  | definition
  | unknownType
  | nameConflict
  | widthOverflow
  | outOfBounds
  | typeMismatch
  | encode
  /-- An argument has the right sort and no meaning. -/
  | badValue
  | missingKey
  | notApplicable
  | overflow
  | badIndex
  /-- Memory does not lie in one piece. -/
  | badMemory
  | noOperation
  /-- A schema line is well formed and holds a numeral that is too long. -/
  | unreadNumeral
  /-- Types or values nest without end. -/
  | endless
deriving DecidableEq

/-- Whether an error is the refusal of a schema, a record or an argument, and no accident on the
way. -/
def ErrorKind.isRefusal : ErrorKind → Bool
  | definition | unknownType | nameConflict | widthOverflow | outOfBounds | typeMismatch
  | encode => true
  | _ => false

inductive Error where
  -- descriptors
  | typeName (name : Value)
  | typeSize (name : String) (size : Value)
  | noDecoder (name : String)
  | badEncoder (name : String)
  | memberCount (name : String) (count : Int)
  | recordName (name : Value)
  | duplicateMember (member record : String)
  | misnamed (own given : String)
  -- layouts of bitfields
  | runName (name : Value)
  | duplicateRun (name : String)
  | runWidth (name : String) (width : Value)
  | layoutTooWide (container : String) (used : Nat) (width : Int)
  | rawTooWide (raw : Int) (width : Nat)
  | rawNotInteger (kind : String)
  | abstractBitfield
  | noRun (container name : String)
  -- schemas
  | malformedLine (line : Int) (text : String)
  | arrayLength (line : Int) (length : Nat) (text : String)
  | numeralTooLong
  | noMembers (record : String)
  | repeatedMember (line : Int) (member record : String)
  | stringMember (line : Int)
  | unsizedMember (line : Int) (type : String)
  | runsNotAllowed (line : Int) (type : String)
  -- registry
  | primitiveName (name : String)
  | typeTaken (name : String)
  | recordTaken (name : String)
  | notDescriptor (kind name : String)
  | unknownType (name : String)
  | notRecord (name : String)
  | noMember (name : String)
  | endless
  -- generated classes
  | classClash (first second className : String)
  | attributeClash (first second record attr : String)
  -- buffers and positions
  | notBuffer (kind : String)
  | strided
  | unflattenable
  | readOnly
  | positionNotNumber (kind : String)
  | positionNotFinite (x : Binary64)
  | positionNotWhole (x : Binary64)
  | positionNegative (position : Int)
  | beyondEnd (type : String) (size position : Int) (length : Nat)
  | unreadable (format : String) (offset : Int)
  | noStringAt (offset : Int)
  | unterminated (offset : Int)
  | offsetTooLarge
  | indexTooLarge
  | badOrder (order : Value)
  -- streams
  | streamOffset (offset : Value) (length : Nat)
  | notStreamOffset
  | seekNotNumber (kind : String)
  | seekNotFinite (x : Binary64)
  | seekNotWhole (x : Binary64)
  | badWhence (whence : Value)
  -- values to be written
  | noEncoder (type : String)
  | unencodable (value : Value) (type : String)
  | otherContainer (given wanted : String)
  | charOutOfRange (value : Value)
  | charNotSingle (value : Value)
  | notMapping (record kind : String)
  | missingMember (member record : String)
  | itemCount (member : String) (wanted got : Nat)
  | notSequence (member kind : String)
  | unknownRun (container name : String)
  | runValue (value : Value) (run : String)
  -- arithmetic and sequences
  | notNumeral
  | notIntegral
  | infiniteIntegral
  | undefinedIntegral
  | notIterable
  | notPair
  | notIndexable
  | noItem
  | byteRange
  | stridedMemory
  | numberTooLong
  | zeroStep
  | badFormat
  | badColour
  | badCast
  | unhashable
  | noCodec
  | noWriter
  | notWritable

namespace Error

def causeKind : Error → ErrorKind
  | typeName _ | typeSize .. | noDecoder _ | badEncoder _ | memberCount .. | recordName _
  | duplicateMember .. | misnamed .. | runName _ | duplicateRun _ | runWidth ..
  | malformedLine .. | arrayLength .. | noMembers _ | repeatedMember .. | stringMember _
  | unsizedMember .. | runsNotAllowed .. | classClash .. | attributeClash .. => .definition
  | unknownType _ | notRecord _ => .unknownType
  | primitiveName _ | typeTaken _ | recordTaken _ => .nameConflict
  | layoutTooWide .. | rawTooWide .. => .widthOverflow
  | positionNotFinite _ | positionNegative _ | beyondEnd .. | unreadable .. | noStringAt _
  | unterminated _ | streamOffset .. | seekNotFinite _ => .outOfBounds
  | rawNotInteger _ | abstractBitfield | notDescriptor .. | notBuffer _ | strided | readOnly
  | positionNotNumber _ | positionNotWhole _ | seekNotNumber _ | seekNotWhole _
  | noEncoder _ => .typeMismatch
  | unencodable .. | otherContainer .. | charOutOfRange _ | charNotSingle _ | notMapping ..
  | missingMember .. | itemCount .. | notSequence .. | unknownRun .. | runValue .. => .encode
  | badOrder _ | badWhence _ | notNumeral | undefinedIntegral | notPair | zeroStep | badFormat
  | badColour | byteRange | numberTooLong => .badValue
  | noRun .. | noMember _ => .missingKey
  | unflattenable | notStreamOffset | notIntegral | notIterable | notIndexable | badCast
  | unhashable | noWriter | notWritable => .notApplicable
  | offsetTooLarge | infiniteIntegral => .overflow
  | indexTooLarge | noItem => .badIndex
  | stridedMemory => .badMemory
  | noCodec => .noOperation
  | numeralTooLong => .unreadNumeral
  | endless => .endless

/-- Whether the numbers in the wording of a cause have numerals that can be written. -/
def isWritable : Error → Bool
  | typeName v | recordName v | runName v | badOrder v | badWhence v | charOutOfRange v
  | charNotSingle v | typeSize _ v | runWidth _ v | unencodable v _ | runValue v _
  | streamOffset v _ => v.isWritable
  | memberCount _ n | positionNegative n | rawTooWide n _ | unreadable _ n | noStringAt n
  | unterminated n | malformedLine n _ | arrayLength n _ _ | repeatedMember n _ _
  | stringMember n | unsizedMember n _ | runsNotAllowed n _ => Numeral.isWritable n
  | layoutTooWide _ used width => Numeral.isWritable used && Numeral.isWritable width
  | beyondEnd _ size position _ => Numeral.isWritable size && Numeral.isWritable position
  | itemCount _ wanted _ => Numeral.isWritable wanted
  | _ => true

/-- The family of an error. One that cannot be put into words is an error of its own. -/
def kind (e : Error) : ErrorKind :=
  if e.isWritable then e.causeKind else .badValue

def wording? : Error → Option String
  | typeName name => s!"Type name must be a non-empty string, got {name.written}"
  | typeSize name size => s!"Type '{name}' has invalid size {size.written}"
  | noDecoder name => s!"Type '{name}' has no callable decoder"
  | badEncoder name => s!"Type '{name}' has a non-callable encoder"
  | memberCount name count => s!"Field '{name}' must have a positive array length, got {count}"
  | recordName name => s!"Struct name must be a non-empty string, got {name.written}"
  | duplicateMember member record => s!"Duplicate field '{member}' in struct '{record}'"
  | misnamed own given => s!"Cannot register descriptor '{own}' under name '{given}'"
  | runName name => s!"Invalid bitfield sub-field name {name.written}"
  | duplicateRun name => s!"Duplicate bitfield sub-field '{name}'"
  | runWidth name width => s!"Bitfield sub-field '{name}' has invalid width {width.written}"
  | layoutTooWide container used width =>
    s!"{container} sub-fields use {used} bits, but the container holds {width}"
  | rawTooWide raw width => s!"Raw value {raw} does not fit in {width} bits"
  | rawNotInteger kind => s!"Bitfield raw value must be an int, got {kind}"
  | abstractBitfield => "Bitfield is abstract, use Bitfield8/16/32/64"
  | noRun container name => s!"{container} has no sub-field '{name}'"
  | malformedLine line text => s!"line {line}: Invalid field declaration '{text}'"
  | arrayLength line length text =>
    s!"line {line}: Array length must be a positive integer, got {length} in '{text}'"
  | noMembers record => s!"Struct '{record}' has no fields"
  | repeatedMember line member record =>
    s!"line {line}: Duplicate field '{member}' in struct '{record}'"
  | stringMember line =>
    s!"line {line}: Struct members cannot be of type 'string'. Please use a char[] array."
  | unsizedMember line type =>
    s!"line {line}: Type '{type}' has no fixed size and cannot be a struct member"
  | runsNotAllowed line type => s!"line {line}: Type '{type}' does not take a sub-field list"
  | primitiveName name => s!"Cannot redefine primitive type '{name}'"
  | typeTaken name => s!"Type named '{name}' already registered"
  | recordTaken name => s!"struct named '{name}' already registered"
  | notDescriptor kind name =>
    s!"Cannot register {kind} as '{name}': expected a TypeDescriptor or StructDescriptor"
  | unknownType name => s!"No struct or type named '{name}' registered"
  | notRecord name => s!"No struct named '{name}' registered"
  | noMember name => name
  | classClash first second className =>
    s!"Structs '{first}' and '{second}' both generate class {className}"
  | attributeClash first second record attr =>
    s!"Fields '{first}' and '{second}' of struct '{record}' both generate attribute {attr}"
  | notBuffer kind => s!"Expected bytes, bytearray or memoryview, got {kind}"
  | strided => "Expected a contiguous buffer, got a strided memoryview"
  | readOnly => "Cannot write to a read-only buffer"
  | positionNotNumber kind => s!"Position must be a number, got {kind}"
  | positionNotFinite x => s!"Position must be finite, got {x.text}"
  | positionNotWhole x => s!"Position must be a whole number, got {x.text}"
  | positionNegative position => s!"Position must not be negative, got {position}"
  | beyondEnd type size position length =>
    s!"'{type}' needs {size} bytes at position {position}, but the buffer holds {length}"
  | unreadable format offset => s!"Cannot read '{format}' at offset {offset}"
  | noStringAt offset => s!"Cannot read string at offset {offset}"
  | unterminated offset => s!"Unterminated string at offset {offset}"
  | badOrder order => s!"{order.written} is not a valid Endianness"
  | streamOffset offset length =>
    s!"Stream offset {offset.written} outside buffer of {length} bytes"
  | seekNotNumber kind => s!"Seek offset must be a number, got {kind}"
  | seekNotFinite x => s!"Seek offset must be finite, got {x.text}"
  | seekNotWhole x => s!"Seek offset must be a whole number, got {x.text}"
  | badWhence whence => s!"Invalid whence value {whence.written}"
  | noEncoder type => s!"Type '{type}' has no encoder"
  | unencodable value type => s!"Cannot encode {value.written} as {type}"
  | otherContainer given wanted => s!"Cannot encode {given} as {wanted}"
  | charOutOfRange value => s!"Cannot encode {value.written} as char: out of range"
  | charNotSingle value => s!"Cannot encode {value.written} as char: expected a single character"
  | notMapping record kind => s!"Struct '{record}' must be written from a mapping, got {kind}"
  | missingMember member record => s!"Missing field '{member}' for struct '{record}'"
  | itemCount member wanted got => s!"Field '{member}' must have {wanted} elements, got {got}"
  | notSequence member kind => s!"Field '{member}' must be a sequence, got {kind}"
  | unknownRun container name => s!"{container} has no sub-field '{name}'"
  | runValue value run => s!"Invalid value {value.written} for bitfield sub-field '{run}'"
  | endless | unflattenable | offsetTooLarge | indexTooLarge | notStreamOffset | notNumeral
  | notIntegral | infiniteIntegral | undefinedIntegral | notIterable | notPair | notIndexable
  | noItem | byteRange | stridedMemory | numberTooLong | zeroStep | badFormat | badColour
  | badCast | unhashable | noCodec | noWriter | notWritable | numeralTooLong => none

def message? (e : Error) : Option String :=
  if e.isWritable then e.wording? else none

end Error

end RecordCodec

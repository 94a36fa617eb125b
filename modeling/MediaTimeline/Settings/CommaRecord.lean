import MediaTimeline.Text.Utf8

/-! The first record of comma-separated text. -/

namespace MediaTimeline.Settings

attribute [local instance (high)] Zero.ofOfNat0

/-- What is wrong with a double quote in a record. -/
inductive QuoteFault where
  | bareQuote
  | strayQuote
deriving DecidableEq

/-- Why comma-separated text yields no record. -/
inductive RecordError where
  | noRecord
  | quote (startLine line column : Nat) (fault : QuoteFault)
deriving DecidableEq

def QuoteFault.message : QuoteFault → String
  | .bareQuote => "bare \" in non-quoted-field"
  | .strayQuote => "extraneous or missing \" in quoted-field"

def RecordError.message : RecordError → String
  | .noRecord => "EOF"
  | .quote start line column fault =>
    let place := "parse error on line " ++ toString line ++ ", column " ++ toString column ++ ": " ++
      fault.message
    if start = line then place else "record on line " ++ toString start ++ "; " ++ place

/-- The lines of a text, each with its line feed when it has one; a carriage
return before a line feed is dropped, and so is one at the very end. -/
def textLines (bs : List UInt8) : List (List UInt8) :=
  let rec go (cur : List UInt8) : List UInt8 → List (List UInt8)
    | [] =>
      match cur with
      | [] => []
      | 0x0D :: r => [r.reverse]
      | r => [r.reverse]
    | 0x0A :: rest =>
      let line := match cur with
        | 0x0D :: r => (0x0A :: r).reverse
        | r => (0x0A :: r).reverse
      line :: go [] rest
    | b :: rest => go (b :: cur) rest
  go [] bs

def dropLineFeed (line : List UInt8) : List UInt8 :=
  if line.getLast? = some 0x0A then line.dropLast else line

def endsLine (line : List UInt8) : Bool := line.isEmpty || line = [0x0A]

def findByte (b : UInt8) (bs : List UInt8) : Option Nat := bs.findIdx? (· = b)

/-- The state of reading a record: what is left of the current line, the lines
after it, the line and column of the current position, the line the record
started on, and the fields read so far in reverse. -/
structure RecordCursor where
  rest : List UInt8
  later : List (List UInt8)
  line : Nat
  column : Nat
  startLine : Nat
  fields : List (List UInt8)

/-- The measure that bounds reading: the bytes left in all lines and the lines
left, each counted once more so that every step makes it smaller. -/
def RecordCursor.size (c : RecordCursor) : Nat :=
  c.rest.length + (c.later.map fun l => l.length + 1).sum + 1

mutual
def readFields : Nat → RecordCursor → Except RecordError (List (List UInt8))
  | 0, c => .ok c.fields.reverse
  | fuel + 1, c =>
    match c.rest with
    | 0x22 :: r => readQuoted fuel { c with rest := r, column := c.column + 1 } []
    | line =>
      let field := match findByte 0x2C line with
        | some i => line.take i
        | none => dropLineFeed line
      match findByte 0x22 field with
      | some j => .error (.quote c.startLine c.line (c.column + j) .bareQuote)
      | none =>
        match findByte 0x2C line with
        | some i =>
          readFields fuel { c with rest := line.drop (i + 1), column := c.column + i + 1,
                                   fields := field :: c.fields }
        | none => .ok (field :: c.fields).reverse

def readQuoted : Nat → RecordCursor → List UInt8 → Except RecordError (List (List UInt8))
  | 0, c, buf => .ok (buf :: c.fields).reverse
  | fuel + 1, c, buf =>
    match findByte 0x22 c.rest with
    | some i =>
      let buf := buf ++ c.rest.take i
      let after := c.rest.drop (i + 1)
      let column := c.column + i + 1
      match after with
      | 0x22 :: r => readQuoted fuel { c with rest := r, column := column + 1 } (buf ++ [0x22])
      | 0x2C :: r => readFields fuel { c with rest := r, column := column + 1, fields := buf :: c.fields }
      | r =>
        if endsLine r then .ok (buf :: c.fields).reverse
        else .error (.quote c.startLine c.line (column - 1) .strayQuote)
    | none =>
      if c.rest.isEmpty then .error (.quote c.startLine c.line c.column .strayQuote)
      else
        let buf := buf ++ c.rest
        let column := c.column + c.rest.length
        match c.later with
        | [] :: more => readQuoted fuel { c with rest := [], later := more, column := column } buf
        | next :: more => readQuoted fuel { c with rest := next, later := more, line := c.line + 1, column := 1 } buf
        | [] => readQuoted fuel { c with rest := [], column := column } buf
end

def readCommaRecord (s : String) : Except RecordError (List String) :=
  if s.isEmpty then .ok []
  else
    let lines := textLines s.toUTF8.toList
    let skipped := lines.takeWhile fun l => l = [0x0A] || l = []
    match lines.drop skipped.length with
    | [] => .error .noRecord
    | first :: later =>
      let line := skipped.length + 1
      let c : RecordCursor := ⟨first, later, line, 1, line, []⟩
      (readFields (2 * c.size) c).map fun fs => fs.map Text.stringOfUtf8

end MediaTimeline.Settings

import Locator.Text.Chars

namespace Locator.Net

abbrev Label := List Char

def Label.size (label : Label) : Nat :=
  (String.ofList label).utf8ByteSize

inductive HostNameError where
  | unrecognizedChar (c : Char)
  | illegalChar (c : Char)
  | labelTooLong (size : Nat)
  | malformedLabel (label : String)
  | nameTooLong (size : Nat)
  deriving DecidableEq

def HostNameError.message : HostNameError → String
  | unrecognizedChar c => s!"unrecognized char: {c}"
  | illegalChar c => s!"illegal char: {c}"
  | labelTooLong size => s!"label bytes exceed 63: {size}"
  | malformedLabel label => s!"Malformed label: {label}"
  | nameTooLong size => s!"name label data exceed 255: {size}"

namespace HostName

inductive Escape where
  | outside
  | begun
  | digits (count value : Nat)

def isFirst (c : Char) : Bool :=
  c.isAlphanum || c = '_' || c = '*' || c = '.'

def isLater (c : Char) : Bool :=
  c.isAlphanum || c = '-' || c = '_' || c = '.'

def wellFormed (label : Label) : Bool :=
  match label with
  | [] => false
  | c :: later => label = ['*'] || (isFirst c && later.all isLater)

/-- The size of a name: each label has a byte for its length, and the name one for its end. -/
def size (labels : List Label) : Nat :=
  labels.length + Label.size labels.flatten + 1

/-- Ends a label, given the labels before it, last first. -/
def endLabel (before : List Label) (label : Label) : Except HostNameError (List Label) :=
  if 63 < label.size then .error (.labelTooLong label.size)
  else if !wellFormed label then .error (.malformedLabel (String.ofList label))
  else if 255 < size (label :: before) then .error (.nameTooLong (size (label :: before)))
  else .ok (label :: before)

def octalDigit (c : Char) : Except HostNameError Nat :=
  if !Text.isNumeric c then .error (.unrecognizedChar c)
  else if '0' ≤ c ∧ c ≤ '7' then .ok (c.toNat - '0'.toNat)
  else .error (.illegalChar c)

/-- An escape that the text does not finish is dropped, and so is an empty last label. -/
def readLabels (before : List Label) (label : List Char) :
    Escape → List Char → Except HostNameError (List Label)
  | _, [] =>
    if label = [] then .ok before.reverse
    else
      match endLabel before label.reverse with
      | .ok labels => .ok labels.reverse
      | .error error => .error error
  | .outside, c :: text =>
    if c = '.' then
      match endLabel before label.reverse with
      | .ok labels => readLabels labels [] .outside text
      | .error error => .error error
    else if c = '\\' then readLabels before label .begun text
    else if Text.isControl c || Text.isBlank c then .error (.unrecognizedChar c)
    else readLabels before (c :: label) .outside text
  | .begun, c :: text =>
    if Text.isNumeric c then
      match octalDigit c with
      | .ok d => readLabels before label (.digits 1 d) text
      | .error error => .error error
    else readLabels before (c :: label) .outside text
  | .digits count value, c :: text =>
    match octalDigit c with
    | .error error => .error error
    | .ok d =>
      if count = 2 then readLabels before (Char.ofNat (8 * value + d) :: label) .outside text
      else readLabels before label (.digits (count + 1) (8 * value + d)) text

/-- The labels of a host name. A dot alone is the root, which has none. -/
def labels (text : String) : Except HostNameError (List Label) :=
  if text = "." then .ok [] else readLabels [] [] .outside text.toList

end HostName
end Locator.Net

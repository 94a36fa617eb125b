import MediaTimeline.Settings.Duration
import MediaTimeline.Text.Blank
import MediaTimeline.Settings.CommaRecord

/-! Settings read from the command line or from the configuration. -/

namespace MediaTimeline.Settings

/-- The kinds of setting. -/
inductive SettingKind where
  | text
  | integer
  | truth
  | fraction
  | duration
  | texts
deriving DecidableEq, Inhabited

/-- A setting's value. -/
inductive SettingValue where
  | text (s : String)
  | integer (n : Int)
  | truth (b : Bool)
  | fraction (f : Floating)
  | duration (ns : Int)
  | texts (xs : List String)
deriving DecidableEq, Inhabited

def words (s : String) : List String :=
  (s.toList.splitBy fun a b => Text.isBlank a == Text.isBlank b).filterMap fun w =>
    if w.all Text.isBlank then none else some (String.ofList w)

/-- A list setting as it reads back: the list is kept as one line of
comma-separated text, where a single empty field is the empty text, and the
empty text reads back as no fields. -/
def storedTexts (fs : List String) : List String := if fs = [""] then [] else fs

def SettingKind.ofArgument (k : SettingKind) (s : String) : Except String SettingValue :=
  match k with
  | .text => .ok (.text s)
  | .integer => (readInteger s).map .integer |>.mapError (·.message "strconv.ParseInt" s)
  | .truth => (readBool s).map .truth |>.mapError (·.message "strconv.ParseBool" s)
  | .fraction => (readFloat s).map .fraction |>.mapError (·.message "strconv.ParseFloat" s)
  | .duration => (readDuration s).map .duration |>.mapError (·.message)
  | .texts => (readCommaRecord s).map (.texts ∘ storedTexts) |>.mapError (·.message)

def SettingKind.zero : SettingKind → SettingValue
  | .text => .text ""
  | .integer => .integer 0
  | .truth => .truth false
  | .fraction => .fraction (.finite ⟨0, 0⟩)
  | .duration => .duration 0
  | .texts => .texts []

def SettingKind.ofConfigured (k : SettingKind) (s : String) : SettingValue :=
  let orZero (r : Except String SettingValue) : SettingValue := match r with
    | .ok v => v
    | .error _ => k.zero
  match k with
  | .integer => orZero ((readInteger (dropDecimalPart s)).map .integer |>.mapError fun _ => "")
  | .duration =>
    let unitless := !s.toList.any fun c => "nsuµmh".toList.contains c
    orZero ((readDuration (if unitless then s ++ "ns" else s)).map .duration |>.mapError fun _ => "")
  | .texts => .texts (words s)
  | k => orZero (k.ofArgument s)

def resolve (name : String) (k : SettingKind) (argument configured : Option String) :
    Except String SettingValue :=
  match argument with
  | some s => (k.ofArgument s).mapError fun e =>
    "invalid argument " ++ Text.quote s ++ " for " ++ Text.quote ("--" ++ name) ++ " flag: " ++ e
  | none => .ok ((configured.map k.ofConfigured).getD k.zero)

end MediaTimeline.Settings

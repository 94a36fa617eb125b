import MediaTimeline.Config.Value
import MediaTimeline.Settings.Option

/-! Taking a configured value as a setting of a given kind. -/

namespace MediaTimeline.Config

attribute [local instance (high)] instPowNat

open Settings

namespace ConfigValue

/-- The integer part of a fraction written as text, if it reads. -/
def fractionWhole (t : String) : Int :=
  match readDecimal t with
  | .ok d =>
    if 0 ≤ d.exponent then d.digits * 10 ^ d.exponent.toNat
    else if ((toString d.digits.natAbs).length : Int) + d.exponent ≤ 0 then 0
    else d.digits.tdiv (10 ^ (-d.exponent).toNat)
  | .error _ => 0

def asText : ConfigValue → String
  | .text s => s
  | .truth b => if b then "true" else "false"
  | .integer n => toString n
  | .fraction t => t
  | _ => ""

def asInt : ConfigValue → Int
  | .integer n => n
  | .truth b => if b then 1 else 0
  | .fraction t => fractionWhole t
  | .text s => match SettingKind.ofConfigured .integer s with
    | .integer n => n
    | _ => 0
  | _ => 0

def asBool : ConfigValue → Bool
  | .truth b => b
  | .integer n => n != 0
  | .fraction t => match readDecimal t with
    | .ok d => d.digits != 0
    | .error _ => false
  | .text s => match SettingKind.ofConfigured .truth s with
    | .truth b => b
    | _ => false
  | _ => false

def asDuration : ConfigValue → Int
  | .integer n => n
  | .fraction t => fractionWhole t
  | .text s => match SettingKind.ofConfigured .duration s with
    | .duration d => d
    | _ => 0
  | _ => 0

def asSetting (v : ConfigValue) : SettingKind → SettingValue
  | .text => .text v.asText
  | .integer => .integer v.asInt
  | .truth => .truth v.asBool
  | .duration => .duration v.asDuration
  | .fraction => SettingKind.ofConfigured .fraction v.asText
  | .texts => match v with
    | .list items => .texts (items.map asText)
    | v => SettingKind.ofConfigured .texts v.asText

end ConfigValue

end MediaTimeline.Config

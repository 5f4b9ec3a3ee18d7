import Absorption.Failure.Message

set_option autoImplicit false

/-!
Refusals announced by a client, who names the kind and passes its values. The values need not have
the types that the refusals of tables have; what cannot be worded is a fault.
-/

namespace Absorption

/-- An announced refusal: its text and the values it carries, sorted by name. -/
structure Announcement where
  message : String
  attributes : List (String × Value)

/-- The items of a list, the characters of a text or the keys of a mapping. -/
def Value.elements? : Value → Option (List Value)
  | .list vs => some vs
  | .text s => some (s.toList.map fun c => .text (String.ofList [c]))
  | .map es => some (es.map fun e => e.1.toValue)
  | _ => none

/-- A number with six significant digits. Truth values count as numbers. -/
def Value.generalText : Value → Except Fault String
  | .bool b => .ok (if b then "1" else "0")
  | .int n => match Decimal.ofInt? n with
    | some x => .ok (Decimal.generalText x)
    | none => .error .tooLarge
  | .float x => .ok (Decimal.generalText x)
  | .text _ => .error .malformed
  | _ => .error .wrongKind

/-- The texts among values that are all texts. -/
def Value.texts? (vs : List Value) : Option (List String) :=
  vs.mapM fun v => match v with
    | .text s => some s
    | _ => none

namespace Kind

/-- The announcement of a refusal that carries no values of its own: one value is the message,
several are shown in parentheses. -/
def announcePlain (values : List Value) : Announcement where
  message := match values with
    | [] => ""
    | [v] => v.display
    | vs => "(" ++ Value.joined ", " (vs.map Value.shown) ++ ")"
  attributes := []

/-- The announcement of a range refusal, with a further sentence if `detail` says something. -/
def announceRange (k : Kind) (value lower upper : Value) (detail : Value) :
    Except Fault Announcement := do
  let v ← value.generalText
  let l ← lower.generalText
  let u ← upper.generalText
  let message := Wording.outOfRange (Wording.quantity k) v l u
  return {
    message := if detail.isTruthy then Wording.detailed message detail.display else message
    attributes := [("allowed_max", upper), ("allowed_min", lower), ("value", value)] }

/-- The announcement of a refusal of kind `k` with the values that it is given. -/
def announce (k : Kind) (values : List Value) : Except Fault Announcement :=
  match k, values with
  | speciesNotFound, [species, available] =>
    match available.elements? with
    | none => .error .wrongKind
    | some vs => match Value.texts? vs with
      | none => .error .wrongKind
      | some tags => .ok {
          message := Wording.speciesNotFound species.shown tags
          attributes := [("available", .list vs), ("species", species)] }
  | ambiguousSpecies, [species, count] => .ok {
      message := Wording.ambiguousSpecies species.shown count.display
      attributes := [("count", count), ("species", species)] }
  | gridPointNotFound, [index, value, tolerance] => .ok {
      message := Wording.gridPointNotFound index.display value.display tolerance.display
      attributes := [("index", index), ("tolerance", tolerance), ("value", value)] }
  | insufficientGrid, [axis, points, order] => .ok {
      message := Wording.insufficientGrid axis.display points.display order.display
      attributes := [("axis", axis), ("n_points", points), ("order", order)] }
  | range, [value, lower, upper] | pressureRange, [value, lower, upper]
  | temperatureRange, [value, lower, upper] | humidityRange, [value, lower, upper] =>
    announceRange k value lower upper .null
  | range, [value, lower, upper, detail] | pressureRange, [value, lower, upper, detail]
  | temperatureRange, [value, lower, upper, detail]
  | humidityRange, [value, lower, upper, detail] =>
    announceRange k value lower upper detail
  | speciesNotFound, _ | ambiguousSpecies, _ | gridPointNotFound, _ | insufficientGrid, _
  | range, _ | pressureRange, _ | temperatureRange, _ | humidityRange, _ => .error .wrongKind
  | _, values => .ok (announcePlain values)

end Kind
end Absorption

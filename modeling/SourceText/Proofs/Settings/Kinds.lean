import SourceText.Settings.Environment

/-!
# Settings of the right kinds

Every setting has a kind of values that suits it: the kind that the reading of its variable gives.
-/

namespace SourceText

/-- Whether a value is of the kind that a reading gives. -/
def Settings.Reading.fits : Settings.Reading → Value → Bool
  | .text, .string _ => true
  | .integer, value => value.toInt?.isSome
  | .number, .number _ => true
  | .number, value => value.toInt?.isSome
  | .items, .list names => names.all Value.isText
  | _, _ => false

namespace Settings

/-- Whether every setting has a value of its kind. The format of messages is a text. -/
def WellTyped (s : Settings) : Prop :=
  ∀ setting, ((reading? setting).getD .text).fits (s.value setting) = true

/-- The integer that a setting has. -/
def count (s : Settings) (setting : Setting) : Int := (s.value setting).toInt?.getD 0

/-- The text that a setting has. -/
def word (s : Settings) (setting : Setting) : String :=
  match s.value setting with
  | .string word => word
  | _ => ""

section WellTyped

variable {s : Settings} {setting : Setting} (hs : s.WellTyped)

include hs

theorem WellTyped.toInt?_eq (hsetting : reading? setting = some .integer) :
    (s.value setting).toInt? = some (s.count setting) := by
  have hfits := hs setting
  rw [hsetting, Option.getD_some, Reading.fits, Option.isSome_iff_exists] at hfits
  obtain ⟨n, hn⟩ := hfits
  rw [count, hn, Option.getD_some]

theorem WellTyped.value_eq_string (hsetting : reading? setting = some .text) :
    s.value setting = .string (s.word setting) := by
  have hfits := hs setting
  rw [hsetting, Option.getD_some, Reading.fits.eq_def] at hfits
  rw [word]
  cases hvalue : s.value setting with
  | string word => rfl
  | _ => simp [hvalue] at hfits

end WellTyped

end Settings

end SourceText

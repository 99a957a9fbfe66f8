import ExceptionDispatch.Settings.Basic
import ExceptionDispatch.Text.Blank
import ExceptionDispatch.Text.Numeral

/-!
# Settings from environment variables

Each setting has a variable of its own, and a variable that is absent, is not valid UTF-8 or has a
value that means nothing leaves its setting alone. The depth is a decimal numeral with nothing
around it; zero is ignored and large values are cut down. The two words may have blanks around them.
-/

namespace ExceptionDispatch

/-- The values of environment variables, as bytes. -/
abbrev Environment := String → Option ByteArray

namespace Environment

/-- The text of a variable, if its value is valid UTF-8. -/
def text? (environment : Environment) (name : String) : Option (List Char) :=
  (environment name).bind fun bytes => (String.fromUTF8? bytes).map String.toList

end Environment

namespace Settings

/-- The variable of the construction depth. -/
def depthVariable : String := "KESTREL_MAX_CONSTRUCTION_DEPTH"

/-- The variable of the look-up mode. -/
def lookupVariable : String := "KESTREL_CATALOG_LOOKUP"

/-- The variable of the matching rule. -/
def matchingVariable : String := "KESTREL_CATCH_MATCHING"

/-- The largest construction depth that a variable can ask for. Embeds `MAX_CONSTRUCTION_DEPTH`. -/
def depthCeiling : UInt16 := 256

/-- The construction depth that a text asks for. Embeds `Config::from_env` with `Config::verify`. -/
def depthOfText? (text : List Char) : Option UInt16 :=
  (Text.Numeral.word16? text).bind fun depth =>
    if depth = 0 then none else some (if depthCeiling < depth then depthCeiling else depth)

/-- The settings that an environment asks for. Embeds `Config::from_env`. -/
def ofEnvironment (environment : Environment) : Settings where
  maxConstructionDepth :=
    ((environment.text? depthVariable).bind depthOfText?).getD
      (({} : Settings).maxConstructionDepth)
  catalogLookup :=
    ((environment.text? lookupVariable).bind fun text => LookupMode.ofWord? (Text.trim text)).getD
      (({} : Settings).catalogLookup)
  catchMatching :=
    ((environment.text? matchingVariable).bind fun text =>
      CatchMatching.ofWord? (Text.trim text)).getD (({} : Settings).catchMatching)

/-- A depth read from a text is at least one and at most the ceiling. -/
theorem depthOfText?_bounds {text : List Char} {depth : UInt16}
    (h : depthOfText? text = some depth) : 0 < depth ∧ depth ≤ depthCeiling := by
  simp only [depthOfText?, Option.bind_eq_some_iff] at h
  obtain ⟨word, _, hw⟩ := h
  split at hw
  next => cases hw
  next hz =>
    cases hw
    split
    next => decide
    next hc => exact ⟨UInt16.pos_iff_ne_zero.2 hz, UInt16.not_lt.1 hc⟩

end Settings

end ExceptionDispatch

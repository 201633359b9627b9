import ShaderDriver.Caps.Cache
import ShaderDriver.Settings

/-!
# ShaderDriver.Pragma.Token

**The words of a settings comment.** A word either selects a capability bundle by name or changes
one of the compilation settings. In a comment each word follows a space, so a token is spelled with
the space in front of it.
-/

namespace ShaderDriver.Pragma

/-- The changes of settings that have a word. -/
inductive Tweak where
  | flipY
  | forceHighPrecision
  | noInline
  | inlineThresholdMax
  | sharpen
deriving DecidableEq, Repr

namespace Tweak

/-- All changes, in the order in which their words are tried. -/
def all : List Tweak := [flipY, forceHighPrecision, noInline, inlineThresholdMax, sharpen]

/-- The word for a change. -/
def word : Tweak → String
  | flipY => "FlipY"
  | forceHighPrecision => "ForceHighPrecision"
  | noInline => "NoInline"
  | inlineThresholdMax => "InlineThresholdMax"
  | sharpen => "Sharpen"

/-- The settings after a change. -/
def apply (tweak : Tweak) (settings : Settings) : Settings :=
  match tweak with
  | flipY => { settings with flipY := true }
  | forceHighPrecision => { settings with forceHighPrecision := true }
  | noInline => { settings with inlineThreshold := 0 }
  | inlineThresholdMax => { settings with inlineThreshold := Settings.maxInlineThreshold }
  | sharpen => { settings with sharpenTextures := true }

end Tweak

/-- The names of the capability bundles that a comment can select, in the order in which they are
tried. -/
def capsNames : List String :=
  ["AddAndTrueToLoopCondition",
    "BlendModesFailRandomlyForAllZeroVec",
    "CannotUseFractForNegativeValues",
    "CannotUseFragCoord",
    "CannotUseMinAndAbsTogether",
    "Default",
    "EmulateAbsIntFunction",
    "FragCoordsOld",
    "FragCoordsNew",
    "GeometryShaderExtensionString",
    "GeometryShaderSupport",
    "GSInvocationsExtensionString",
    "IncompleteShortIntPrecision",
    "MustGuardDivisionEvenAfterExplicitZeroCheck",
    "MustForceNegatedAtanParamToFloat",
    "NoGSInvocationsSupport",
    "RemovePowWithConstantExponent",
    "RewriteDoWhileLoops",
    "ShaderDerivativeExtensionString",
    "UnfoldShortCircuitAsTernary",
    "UsesPrecisionModifiers",
    "Version110",
    "Version450Core"]

/-- A word of a settings comment. -/
inductive Token where
  /-- Selects the capability bundle of this name. -/
  | caps (name : String)
  /-- Changes the settings. -/
  | tweak (change : Tweak)
deriving DecidableEq, Repr

namespace Token

/-- The recognized tokens, in the order in which they are tried. -/
def all : List Token := capsNames.map .caps ++ Tweak.all.map .tweak

/-- The word of a token. -/
def word : Token → String
  | caps name => name
  | tweak change => change.word

/-- A token as it is spelled in a comment, the space in front of it included. -/
def spelling (token : Token) : Bytes := utf8 (" " ++ token.word)

end Token

/-! ### What tokens act on -/

variable {β κ : Type}

/-- What a settings comment acts on: the settings of a program, the capability bundle selected for
it, and the cache that bundles come from. -/
structure Selection (β κ : Type) where
  settings : Settings
  caps : Option β
  cache : CapsCache β κ

/-- Lets a token act. -/
def Token.apply (make : CapsFactory β κ) (token : Token) (selection : Selection β κ) :
    Except Crash Unit × Selection β κ :=
  match token with
  | .tweak change => (.ok (), { selection with settings := change.apply selection.settings })
  | .caps name =>
    match selection.cache.get make name with
    | (.ok bundle, cache) => (.ok (), { selection with caps := bundle, cache })
    | (.error crash, cache) => (.error crash, { selection with cache })

end ShaderDriver.Pragma

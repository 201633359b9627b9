/-!
# ShaderDriver.Settings

**How a single program is compiled.** Settings are distinct from the capabilities of the target:
they say how to compile, not what the target supports. Each job starts from the defaults; only the
settings comment of its source and the choice of target change them.
-/

namespace ShaderDriver

/-- The compilation settings of one program. -/
structure Settings where
  flipY : Bool := false
  forceHighPrecision : Bool := false
  /-- Functions up to this size are inlined. -/
  inlineThreshold : Int := 50
  sharpenTextures : Bool := false
  /-- Whether references to settings are replaced by their values. -/
  replaceSettings : Bool := true
deriving DecidableEq, Repr, Inhabited

/-- The largest threshold, that of 32-bit signed integers. -/
def Settings.maxInlineThreshold : Int := 2147483647

end ShaderDriver

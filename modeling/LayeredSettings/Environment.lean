/-! The environment that a program runs in. -/
namespace LayeredSettings

/-- The values of the environment variables that are set. -/
abbrev Environment := String → Option String

end LayeredSettings

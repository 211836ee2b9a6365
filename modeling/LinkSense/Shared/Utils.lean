import LinkSense.Shared.Config

/-!
# Codecs

The encodings that come from other crates (`base64`, `flate2`, `blake3`, `toml`), as
parameters, and what the repository builds from them.
-/

namespace LinkSense

structure Codecs where
  base64Encode : List UInt8 → String
  base64Decode : String → Except String (List UInt8)
  gzip : String → List UInt8
  gunzip : List UInt8 → Except String String
  blake3 : String → String
  tomlTasks : String → Except String TasksConfig

def utf8 (s : String) : List UInt8 := s.toUTF8.data.toList

/-- `encode_base64`. -/
def encodeBase64 (codecs : Codecs) (content : String) : String :=
  codecs.base64Encode (utf8 content)

/-- The gzipped and base64 encoded form in which tasks files travel. -/
def compressToml (codecs : Codecs) (content : String) : String :=
  codecs.base64Encode (codecs.gzip content)

/-- `TasksConfig::validate_from_toml`; the error is its whole text. -/
def validateFromToml (codecs : Codecs) (env : Externals) (content : String) :
    Except String TasksConfig :=
  match codecs.tomlTasks content with
  | .error e => .error s!"Validation error: Invalid TOML format: {e}"
  | .ok config =>
    match config.validate env with
    | .error msg => .error s!"Validation error: {msg}"
    | .ok () => .ok config

end LinkSense

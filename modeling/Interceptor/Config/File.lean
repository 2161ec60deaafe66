/-
# Interceptor.Config.File — configuration files

A configuration file is a document of settings by name. `load` reads and
validates one from its bytes; `render` writes a configuration as such a file.
-/
import Interceptor.Config.Layout
import Interceptor.Error
import Interceptor.Yaml.Decode
import Interceptor.Yaml.Written

namespace Interceptor.Config

set_option autoImplicit false

open Yaml

/-- Why a configuration file cannot be used. -/
inductive LoadError
  | io (error : IoError)
  /-- The text is not one well-formed document; this is the first thing wrong with it. -/
  | notWellFormed (error : DecodeError)
  | decode (error : DecodeError)
  | invalid (fault : Fault)

/-- Reads a setting from a node. -/
def Setting.read (document : Document) : Setting → Document.FieldReader Config
  | .text _ set => fun path node config => do return set (← document.text "a string" path node) config
  | .optionalText _ set => fun path node config => do return set (← document.optionalText path node) config
  | .flag _ set => fun path node config => do return set (← document.flag path node) config
  | .number kind bits _ set => fun path node config => do
    return set (← document.number kind bits path node) config

/-- Reads a group of settings, or a setting that stands alone. -/
def Entry.read (document : Document) : Entry → Document.FieldReader Config
  | .group g => document.record g.label fun name => (g.settings.lookup name).map (·.read document)
  | .single setting => setting.read document

/-- Reads the settings of a document onto the defaults. -/
def ofDocument (document : Document) : Decoded Config :=
  match document.root with
  | none => .ok {}
  | some root =>
    document.record "Config" (fun name => (layout.lookup name).map (·.read document)) [] root {}

/-- Reads a file's text and validates the configuration. -/
def ofText (text : String) : Except LoadError Config :=
  let document := Document.ofText text
  match document.fault, ofDocument document with
  | none, .ok config => (config.validate.mapError .invalid).map fun _ => config
  | none, .error error => .error (.decode error)
  | some fault, .ok _ => .error (.notWellFormed (.broken fault))
  | some _, .error error => .error (.notWellFormed error)

/-- Reads what a file holds. -/
def load (content : Except IoError (List UInt8)) : Except LoadError Config :=
  match content with
  | .error error => .error (.io error)
  | .ok bytes =>
    match String.fromUTF8? (ByteArray.mk bytes.toArray) with
    | some text => ofText text
    | none => .error (.io .notUtf8)

/-- A setting as a line; a text that is absent is left out. -/
def Setting.render (config : Config) (indent : Nat) (name : String) : Setting → String
  | .text get _ => Written.entry indent name (Written.scalar (indent + 2) (get config))
  | .optionalText get _ =>
    (get config).elim "" fun value => Written.entry indent name (Written.scalar (indent + 2) value)
  | .flag get _ => Written.entry indent name (toString (get config))
  | .number _ _ get _ => Written.entry indent name (toString (get config))

def Entry.render (config : Config) (name : String) : Entry → String
  | .group g =>
    Written.heading name ++ String.join (g.settings.map fun (name, setting) => setting.render config 2 name)
  | .single setting => setting.render config 0 name

/-- The configuration as a file. -/
def render (config : Config) : String :=
  String.join (layout.map fun (name, entry) => entry.render config name)

end Interceptor.Config

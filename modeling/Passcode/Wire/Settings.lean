import Passcode.Json.Record
import Passcode.Settings.Basic

/-!
The JSON forms of settings.
-/

set_option autoImplicit false

namespace Passcode

open Json Settings

def named? {α : Type} (name : α → String) (choices : List α) (j : Json) : Option α := do
  let given ← choice? j
  choices.find? (name · == given)

instance : Wire Environment where
  toJson e := .str e.name
  ofJson? := named? Environment.name [.development, .staging, .production]

instance : Wire LogFormat where
  toJson f := .str f.name
  ofJson? := named? LogFormat.name [.json, .pretty, .compact]

instance : Wire Logging where
  toJson l := record [
    ("level", Wire.toJson l.level),
    ("format", Wire.toJson l.format)]
  ofJson? j := do
    let field ← slots? ["level", "format"] j
    let level ← (field "level").required?
    let format ← (field "format").orDefault? LogFormat.pretty
    return { level, format }

instance : Wire Client where
  toJson c := record [
    ("provider", Wire.toJson c.provider),
    ("base_url", Wire.toJson c.baseUrl),
    ("request_timeout_secs", Wire.toJson c.timeout),
    ("preferred_channels", Wire.toJson c.channels)]
  ofJson? j := do
    let standard : Client := {}
    let field ← slots? ["provider", "base_url", "request_timeout_secs", "preferred_channels"] j
    let provider ← (field "provider").orDefault? standard.provider
    let baseUrl ← (field "base_url").orDefault? standard.baseUrl
    let timeout ← (field "request_timeout_secs").orDefault? standard.timeout
    let channels ← (field "preferred_channels").orDefault? standard.channels
    return { provider, baseUrl, timeout, channels }

instance : Wire Settings where
  toJson s := record [
    ("environment", Wire.toJson s.environment),
    ("client", Wire.toJson s.client),
    ("logging", Wire.toJson s.logging)]
  ofJson? j := do
    let standard : Settings := {}
    let field ← slots? ["environment", "client", "logging"] j
    let environment ← (field "environment").orDefault? standard.environment
    let client ← (field "client").orDefault? standard.client
    let logging ← (field "logging").orDefault? standard.logging
    return { environment, client, logging }

end Passcode

import AntHost.Frame.Basic
/-!
# Session settings
-/

namespace AntHost

/-- Settings of a session. Intervals are in nanoseconds. -/
structure Config where
  /-- Only used for serial lines. -/
  baudRate : Nat := 115200
  /-- Longest the router waits in one read of the link. -/
  pollInterval : Nat := 1000000000
  /-- How often a blocked call looks at the cancel flag. -/
  cancelPollInterval : Nat := 10000000
  /-- Payload limit asked for, in both directions. -/
  maxPayload : Nat := maxStandardPayload
deriving DecidableEq, Repr

def Config.limit (config : Config) : PayloadLimit := .ofNat config.maxPayload

end AntHost

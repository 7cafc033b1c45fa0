/-
Esp32Mod/Errors.lean

Result codes of the native calls.

ESP-IDF functions return `esp_err_t`, an `int32_t` whose value 0 means success.  The
codes below are `ESP_FAIL` and those that `system.mod/ota.mod/ota.bmx` repeats for the
application.

NimBLE functions return an `int` that is 0 on success.  The sources name its errors
and never use their values, so `BleHs` keeps the names the adapter tests and one
constructor for every other value.
-/
import Mathlib.Tactic.Common

namespace Esp32Mod

/-- `esp_err_t`. -/
abbrev EspErr := Int32

/-- The errors of ESP-IDF that the modules name. -/
def espOk : EspErr := 0
def espFail : EspErr := -1
def espErrNoMem : EspErr := 0x101
def espErrInvalidArg : EspErr := 0x102
def espErrInvalidState : EspErr := 0x103
def espErrInvalidSize : EspErr := 0x104
def espErrNotFound : EspErr := 0x105
def espErrNotSupported : EspErr := 0x106

/-- The result is an error, and not that this has been done before. -/
def notDone (result : EspErr) : Prop := result ≠ espOk ∧ result ≠ espErrInvalidState

instance (result : EspErr) : Decidable (notDone result) := inferInstanceAs (Decidable (_ ∧ _))

/-- The result of a NimBLE call, or of an adapter call that passes one on. -/
inductive BleHs
  | ok
  | ealready
  | einval
  | ebusy
  | enotsynced
  | other (code : Int32)
  deriving DecidableEq

end Esp32Mod

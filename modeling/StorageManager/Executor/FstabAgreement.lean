import StorageManager.Executor.CreatePersistentConfig
import StorageManager.Executor.SwapPersistentConfig

/-!
# What the writers of the tables write and what the readers read

The executors escape the backslash first, and so does the kernel; the readers replace its escape
first too, so that what looks like an escape in a path is read as one.
-/

namespace StorageManager.Executor.FstabAgreement

open Discovery
open Lib.Octal (octal)

set_option autoImplicit false

/-- What the kernel writes for a path in `/proc/swaps`. -/
def kernelEscape (path : String) : List Char :=
  Lib.Octal.escape ['\\', ' ', '\t', '\n'] path.toList

/-- A path in which nothing looks like the escape of a blank. -/
def NoBlankEscape (s : String) : Prop :=
  ¬"\\040".toList <:+: s.toList ∧ ¬"\\011".toList <:+: s.toList

theorem noBlankEscape_iff (s : String) :
    (∀ c ∈ [' ', '\t'], ¬octal c <:+: s.toList) ↔ NoBlankEscape s := by
  have hspace : octal ' ' = "\\040".toList := by decide
  have htab : octal '\t' = "\\011".toList := by decide
  rw [List.forall_mem_cons, List.forall_mem_singleton, hspace, htab, NoBlankEscape]

theorem unescapeFstab_escape_iff (s : String) :
    unescapeFstab (Lib.Octal.escape ['\\', ' ', '\t'] s.toList) = s.toList ↔ NoBlankEscape s := by
  rw [unescapeFstab_eq, Lib.Octal.unescape_escape_eq_self_iff low_blanks (by decide),
    noBlankEscape_iff]

theorem unescapeProcPath_kernelEscape_iff (p : String) :
    unescapeProcPath (kernelEscape p) = p.toList ↔
      NoBlankEscape p ∧ ¬"\\012".toList <:+: p.toList := by
  have hfeed : octal '\n' = "\\012".toList := by decide
  have hcodes : (∀ c ∈ [' ', '\t'] ++ ['\n'], ¬octal c <:+: p.toList) ↔
      (∀ c ∈ [' ', '\t'], ¬octal c <:+: p.toList) ∧ ¬octal '\n' <:+: p.toList := by
    rw [List.forall_mem_append, List.forall_mem_singleton]
  rw [unescapeProcPath_eq, kernelEscape,
    Lib.Octal.unescape_escape_eq_self_iff low_blanks_newline (by decide)]
  refine hcodes.trans ?_
  rw [noBlankEscape_iff, hfeed]

/-- The readers give back what was written where nothing in it looks like an escape. -/
theorem readers_undo_writers_iff (s p : String) :
    (unescapeFstab (Create.PersistentConfig.escapeFstabField s) = s.toList ↔ NoBlankEscape s) ∧
      (unescapeFstab (Swap.PersistentConfig.escapeFstabField s) = s.toList ↔ NoBlankEscape s) ∧
      (unescapeProcPath (kernelEscape p) = p.toList ↔
        NoBlankEscape p ∧ ¬"\\012".toList <:+: p.toList) := by
  refine ⟨?_, ?_, unescapeProcPath_kernelEscape_iff p⟩
  · rw [Create.PersistentConfig.escapeFstabField_eq]
    exact unescapeFstab_escape_iff s
  · rw [Swap.PersistentConfig.escapeFstabField_eq]
    exact unescapeFstab_escape_iff s

/-- A backslash before the digits of a space is read as a space. -/
theorem readers_differ_sample :
    '\n' ∉ "/mnt/a\\040b".toList ∧
      unescapeFstab (Create.PersistentConfig.escapeFstabField "/mnt/a\\040b") = "/mnt/a b".toList ∧
      unescapeFstab (Swap.PersistentConfig.escapeFstabField "/mnt/a\\040b") = "/mnt/a b".toList ∧
      unescapeProcPath (kernelEscape "/mnt/a\\040b") = "/mnt/a b".toList ∧
      "/mnt/a b".toList ≠ "/mnt/a\\040b".toList := by decide

end StorageManager.Executor.FstabAgreement

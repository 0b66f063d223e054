import Niralis.KeyedTable

namespace Niralis.FileReplacement

/-- The operation that fails. A write that fails leaves the bytes before it. -/
inductive Fault
  | create
  | write (written : Nat)
  | sync
  | rename
  | syncDirectory
  deriving DecidableEq, Repr

/-- The temporary file is there already, and not yet renamed. -/
def Fault.abandons : Fault → Bool
  | create => false
  | write _ => true
  | sync => true
  | rename => true
  | syncDirectory => false

variable {ν β φ : Type} [DecidableEq ν]

def renamed (d : KeyedTable ν φ) (temporary path : ν) (file : φ) : KeyedTable ν φ :=
  (d.remove temporary).insert path file

/-- The files after a replacement, and whether it succeeded. The temporary file is created
exclusively; `file` is what a file with these bytes is. -/
def replace (d : KeyedTable ν φ) (temporary path : ν) (file : List β → φ) (bytes : List β)
    (fault : Option Fault) : Bool × KeyedTable ν φ :=
  if (d.get temporary).isSome then (false, d)
  else match fault with
    | some .create => (false, d)
    | some (.write written) => (false, d.insert temporary (file (bytes.take written)))
    | some .sync => (false, d.insert temporary (file bytes))
    | some .rename => (false, d.insert temporary (file bytes))
    | some .syncDirectory =>
      (false, renamed (d.insert temporary (file bytes)) temporary path (file bytes))
    | none => (true, renamed (d.insert temporary (file bytes)) temporary path (file bytes))

section Replacement
variable {d : KeyedTable ν φ} {temporary path : ν} {file : List β → φ} {bytes : List β}
  {fault : Option Fault}

theorem get_renamed_temporary {f : φ} (hne : temporary ≠ path) :
    (renamed d temporary path f).get temporary = none := by
  rw [renamed, KeyedTable.get_insert_of_ne hne, KeyedTable.get_remove_self]

theorem get_renamed_path {f : φ} : (renamed d temporary path f).get path = some f :=
  KeyedTable.get_insert_self _ _ _

theorem get_renamed_of_ne {f : φ} {name : ν} (htemporary : name ≠ temporary) (hpath : name ≠ path) :
    (renamed d temporary path f).get name = d.get name := by
  rw [renamed, KeyedTable.get_insert_of_ne hpath, KeyedTable.get_remove_of_ne htemporary]

/-- It succeeds where nothing fails and no temporary file was left behind. -/
theorem replace_succeeds_iff :
    (replace d temporary path file bytes fault).1 = true ↔
      (d.get temporary).isSome = false ∧ fault = none := by
  unfold replace
  split
  next hleft => simp [hleft]
  next hleft =>
    rw [Bool.not_eq_true] at hleft
    split <;> simp [hleft]

theorem get_replace_of_ne {name : ν} (htemporary : name ≠ temporary) (hpath : name ≠ path) :
    (replace d temporary path file bytes fault).2.get name = d.get name := by
  unfold replace
  split
  · rfl
  · split
    · rfl
    · exact KeyedTable.get_insert_of_ne htemporary
    · exact KeyedTable.get_insert_of_ne htemporary
    · exact KeyedTable.get_insert_of_ne htemporary
    · rw [get_renamed_of_ne htemporary hpath, KeyedTable.get_insert_of_ne htemporary]
    · rw [get_renamed_of_ne htemporary hpath, KeyedTable.get_insert_of_ne htemporary]

theorem get_replace_path (hne : temporary ≠ path) :
    (replace d temporary path file bytes fault).2.get path =
      if (d.get temporary).isSome = false ∧ (fault = none ∨ fault = some .syncDirectory) then
        some (file bytes)
      else d.get path := by
  unfold replace
  split
  next hleft => simp [hleft]
  next hleft =>
    rw [Bool.not_eq_true] at hleft
    split <;>
      simp [hleft, get_renamed_path, KeyedTable.get_insert_of_ne (Ne.symm hne)]

/-- The temporary file is there afterwards where it was before, or is left by this failure. -/
theorem isSome_get_replace_temporary (hne : temporary ≠ path) :
    ((replace d temporary path file bytes fault).2.get temporary).isSome =
      ((d.get temporary).isSome || fault.any Fault.abandons) := by
  unfold replace
  split
  next hleft => simp [hleft]
  next hleft =>
    rw [Bool.not_eq_true] at hleft
    split <;> simp [hleft, Fault.abandons, get_renamed_temporary hne]

end Replacement

end Niralis.FileReplacement

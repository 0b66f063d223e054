import Niralis.ExecTokens
import Niralis.GreeterProtocol

namespace Niralis.LaunchPlan
open ExecTokens

abbrev Bytes := List UInt8

def utf8 (text : List Char) : Bytes := text.flatMap String.utf8EncodeChar

section Discovery

def isAbsolute (path : Bytes) : Bool := path.head? = some 47

/-- The number of `Path::components`: a dot counts only in front, an empty part only as the root. -/
def componentCount (path : Bytes) : Nat :=
  (if path = [] then 0 else 1) +
    ((path.splitOn 47).tail.filter fun part => part ≠ [] && part ≠ [46]).length

def join (directory path : Bytes) : Bytes :=
  if isAbsolute path then path
  else if directory = [] ∨ directory.getLast? = some 47 then directory ++ path
  else directory ++ 47 :: path

/-- What the file system answers while one program is looked up. -/
structure FileHost where
  /-- `is_executable`, for the directories of the search path. -/
  found : Bytes → Bool
  /-- `is_executable`, asked again for the candidate. -/
  executable : Bytes → Bool
  canonicalize : Bytes → Option Bytes

def candidateFor (host : FileHost) (command : Bytes) (searchPath : List Bytes) : Option Bytes :=
  if isAbsolute command then some command
  else if componentCount command ≠ 1 ∨ command = [] then none
  else (searchPath.map (join · command)).find? host.found

def resolveExecutable (host : FileHost) (command : Bytes) (searchPath : List Bytes) :
    Option Bytes :=
  (candidateFor host command searchPath).bind fun candidate =>
    if host.executable candidate then host.canonicalize candidate else none

def tryExecIsAvailable (host : FileHost) (value : List Char) (searchPath : List Bytes) : Bool :=
  if value = [] ∨ maxArgBytes < utf8Length value ∨
      value.any fun c => c = '\x00' || Text.isAsciiWhitespace c then false
  else (resolveExecutable host (utf8 value) searchPath).isSome

structure CanonicalSessionEntry where
  session : SessionInfo
  sourcePath : Bytes
  exec : List Char
  tryExec : Option (List Char)

structure ResolvedSessionLaunchSpec where
  session : SessionInfo
  sourcePath : Bytes
  executable : Bytes
  argv : List Bytes
  deriving DecidableEq

/-- The program named by the arguments is looked up first, then the one of `TryExec`. -/
def resolve (host tryHost : FileHost) (entry : CanonicalSessionEntry) (searchPath : List Bytes) :
    Option ResolvedSessionLaunchSpec :=
  (parseExec entry.exec).bind fun argv =>
    (resolveExecutable host (utf8 (argv.headD [])) searchPath).bind fun executable =>
      if entry.tryExec.all (tryExecIsAvailable tryHost · searchPath) then
        some ⟨entry.session, entry.sourcePath, executable, argv.map utf8⟩
      else none

end Discovery

section Worker

structure SessionExecPlan where
  sourcePath : Bytes
  executable : Bytes
  argv : List Bytes
  deriving DecidableEq

namespace SessionExecPlan

def maxArgc : Nat := 64
def maxArgBytes : Nat := 4096
def maxArgvBytes : Nat := 16 * 1024

def validate (plan : SessionExecPlan) : Bool :=
  if plan.sourcePath = [] ∨ 4096 < plan.sourcePath.length ∨ plan.executable = [] ∨
      4096 < plan.executable.length ∨ 0 ∈ plan.sourcePath ∨ 0 ∈ plan.executable ∨
      plan.argv = [] ∨ maxArgc < plan.argv.length ∨
      (∃ arg ∈ plan.argv, arg = [] ∨ maxArgBytes < arg.length ∨ 0 ∈ arg) ∨
      maxArgvBytes < (plan.argv.map (·.length + 1)).sum then false
  else isAbsolute plan.executable

end SessionExecPlan

/-- The plan that `PamWorkerLoginBackend::login` sends with a request. -/
def launchPlan (spec : ResolvedSessionLaunchSpec) : SessionExecPlan :=
  ⟨spec.sourcePath, spec.executable, spec.argv⟩

end Worker

section Encoding
variable {text : List Char}

@[simp] theorem utf8_nil : utf8 [] = [] := rfl

@[simp] theorem utf8_cons (c : Char) (text : List Char) :
    utf8 (c :: text) = String.utf8EncodeChar c ++ utf8 text := rfl

@[simp] theorem length_utf8 (text : List Char) : (utf8 text).length = utf8Length text := by
  induction text with
  | nil => rfl
  | cons c text ih =>
    rw [utf8_cons, List.length_append, String.length_utf8EncodeChar, ih]
    rfl

@[simp] theorem utf8_eq_nil : utf8 text = [] ↔ text = [] := by
  cases text with
  | nil => simp
  | cons c text => simp [String.utf8EncodeChar_ne_nil]

/-- A byte that carries the mark of a longer character is not zero. -/
theorem marked_ne_zero {a mark : UInt8} (h : mark ≠ 0) : 0 ≠ a ||| mark := by
  intro hzero
  exact h (UInt8.or_eq_zero_iff.mp hzero.symm).2

theorem zero_not_mem_utf8EncodeChar {c : Char} (h : c ≠ '\x00') :
    0 ∉ String.utf8EncodeChar c := by
  have hsize := c.utf8Size_le_four
  have hpos := c.utf8Size_pos
  have hcases : c.utf8Size = 1 ∨ c.utf8Size = 2 ∨ c.utf8Size = 3 ∨ c.utf8Size = 4 := by omega
  rcases hcases with h1 | h2 | h3 | h4
  · rw [String.utf8EncodeChar_eq_singleton h1, List.mem_singleton]
    intro hzero
    have hle : c.val.toNat ≤ 127 := UInt32.le_iff_toNat_le.mp (Char.utf8Size_eq_one_iff.mp h1)
    have hval : c.val.toNat = 0 := by
      have := congrArg UInt8.toNat hzero
      rw [UInt32.toNat_toUInt8] at this
      have hmod : c.val.toNat % 2 ^ 8 = c.val.toNat := Nat.mod_eq_of_lt (by omega)
      rw [hmod] at this
      exact this.symm
    exact h (Char.ext (UInt32.toNat_inj.mp hval))
  · rw [String.utf8EncodeChar_eq_cons_cons h2]
    simp [marked_ne_zero]
  · rw [String.utf8EncodeChar_eq_cons_cons_cons h3]
    simp [marked_ne_zero]
  · rw [String.utf8EncodeChar_eq_cons_cons_cons_cons h4]
    simp [marked_ne_zero]

theorem zero_not_mem_utf8 (h : '\x00' ∉ text) : 0 ∉ utf8 text := by
  intro hmem
  obtain ⟨c, hc, hzero⟩ := List.mem_flatMap.mp hmem
  exact zero_not_mem_utf8EncodeChar (fun hnul => h (hnul ▸ hc)) hzero

end Encoding

section Agreement
variable {host tryHost : FileHost} {entry : CanonicalSessionEntry} {searchPath : List Bytes}
  {spec : ResolvedSessionLaunchSpec}

/-- What is taken for granted of a path that `fs::canonicalize` returns. -/
structure Canonical (path : Bytes) : Prop where
  absolute : isAbsolute path = true
  nonempty : path ≠ []
  noNul : 0 ∉ path
  length : path.length ≤ 4096

instance (path : Bytes) : Decidable (Canonical path) :=
  decidable_of_iff (isAbsolute path = true ∧ path ≠ [] ∧ 0 ∉ path ∧ path.length ≤ 4096)
    ⟨fun ⟨habsolute, hne, hnul, hlength⟩ => ⟨habsolute, hne, hnul, hlength⟩,
      fun h => ⟨h.absolute, h.nonempty, h.noNul, h.length⟩⟩

theorem canonical_of_resolveExecutable {command path : Bytes}
    (hcanonical : ∀ path path', host.canonicalize path = some path' → Canonical path')
    (h : resolveExecutable host command searchPath = some path) : Canonical path := by
  obtain ⟨candidate, -, hcandidate⟩ := Option.bind_eq_some_iff.mp h
  split at hcandidate
  · exact hcanonical candidate path hcandidate
  · cases hcandidate

theorem resolve_eq_some_iff : resolve host tryHost entry searchPath = some spec ↔
    ∃ argv, parseExec entry.exec = some argv ∧
      resolveExecutable host (utf8 (argv.headD [])) searchPath = some spec.executable ∧
      entry.tryExec.all (tryExecIsAvailable tryHost · searchPath) = true ∧
      spec = ⟨entry.session, entry.sourcePath, spec.executable, argv.map utf8⟩ := by
  unfold resolve
  rw [Option.bind_eq_some_iff]
  refine exists_congr fun argv => and_congr_right fun _ => ?_
  rw [Option.bind_eq_some_iff]
  constructor
  · rintro ⟨executable, hexecutable, hspec⟩
    split at hspec
    next htry =>
      cases hspec
      exact ⟨hexecutable, htry, rfl⟩
    next htry => cases hspec
  · rintro ⟨hexecutable, htry, hspec⟩
    refine ⟨spec.executable, hexecutable, ?_⟩
    rw [if_pos htry]
    exact congrArg some hspec.symm

theorem validate_iff {plan : SessionExecPlan} (hsource : Canonical plan.sourcePath)
    (hexecutable : Canonical plan.executable) :
    plan.validate = true ↔ plan.argv ≠ [] ∧ plan.argv.length ≤ SessionExecPlan.maxArgc ∧
      (∀ arg ∈ plan.argv, arg ≠ [] ∧ arg.length ≤ SessionExecPlan.maxArgBytes ∧ 0 ∉ arg) ∧
      (plan.argv.map (·.length + 1)).sum ≤ SessionExecPlan.maxArgvBytes := by
  unfold SessionExecPlan.validate
  simp only [hsource.nonempty, hsource.noNul, Nat.not_lt.mpr hsource.length, hexecutable.nonempty,
    hexecutable.noNul, Nat.not_lt.mpr hexecutable.length, hexecutable.absolute, false_or]
  split
  next hbad =>
    simp only [Bool.false_eq_true, false_iff]
    rintro ⟨hne, hcount, hargs, htotal⟩
    rcases hbad with hempty | hlong | ⟨arg, harg, hbad⟩ | hmore
    · exact hne hempty
    · exact absurd hcount (Nat.not_le.mpr hlong)
    · obtain ⟨hnonempty, hlength, hnul⟩ := hargs arg harg
      rcases hbad with hempty | hlong | hzero
      · exact hnonempty hempty
      · exact absurd hlength (Nat.not_le.mpr hlong)
      · exact hnul hzero
    · exact absurd htotal (Nat.not_le.mpr hmore)
  next hgood =>
    simp only [not_or, not_exists, not_and, Nat.not_lt] at hgood
    exact ⟨fun _ => hgood, fun _ => rfl⟩

/-- Of an accepted text's arguments the worker refuses the empty one only. -/
theorem validate_of_parseExec {argv : List (List Char)} {sourcePath executable : Bytes}
    (hsource : Canonical sourcePath) (hexecutable : Canonical executable)
    (h : parseExec entry.exec = some argv) :
    SessionExecPlan.validate ⟨sourcePath, executable, argv.map utf8⟩ = true ↔ [] ∉ argv := by
  obtain ⟨hrenders, hne, hlength, hfits⟩ := parseExec_eq_some_iff.mp h
  have htotal : ((argv.map utf8).map (·.length + 1)).sum ≤ SessionExecPlan.maxArgvBytes := by
    have := hrenders.total_le hlength hfits.count
    rw [List.map_map]
    simp only [Function.comp_def, length_utf8]
    exact this
  rw [validate_iff hsource hexecutable]
  constructor
  · rintro ⟨-, -, hargs, -⟩ hmem
    exact (hargs [] (List.mem_map.mpr ⟨[], hmem, rfl⟩)).1 rfl
  · intro hmem
    refine ⟨by simpa using hne, ?_, ?_, htotal⟩
    · rw [List.length_map]
      exact hfits.count
    · intro _ hencoded
      obtain ⟨arg, harg, rfl⟩ := List.mem_map.mp hencoded
      refine ⟨fun hempty => hmem (utf8_eq_nil.mp hempty ▸ harg), ?_, ?_⟩
      · rw [length_utf8]
        exact hfits.args arg harg
      · refine zero_not_mem_utf8 fun hnul => ?_
        have hcontrol := hrenders.not_control _ (hrenders.subset arg harg hnul)
        revert hcontrol
        decide

/-- The worker takes the plan of a session that discovery resolves if and only if the session's text
writes no empty argument. -/
theorem validate_launchPlan_iff (host tryHost : FileHost) (entry : CanonicalSessionEntry)
    (searchPath : List Bytes) (spec : ResolvedSessionLaunchSpec)
    (hcanonical : ∀ path path', host.canonicalize path = some path' → Canonical path')
    (hsource : Canonical entry.sourcePath)
    (h : resolve host tryHost entry searchPath = some spec) :
    (launchPlan spec).validate = true ↔ ¬ WritesEmptyArgument entry.exec := by
  obtain ⟨argv, hparse, hexecutable, -, hspec⟩ := resolve_eq_some_iff.mp h
  rw [hspec, ← empty_mem_iff hparse]
  exact validate_of_parseExec hsource (canonical_of_resolveExecutable hcanonical hexecutable) hparse

def asciiPath (text : String) : Bytes := utf8 text.toList

def niriHost : FileHost where
  found path := path = asciiPath "/usr/bin/niri"
  executable path := path = asciiPath "/usr/bin/niri"
  canonicalize path := if path = asciiPath "/usr/bin/niri" then some path else none

def niriEntry (exec : String) : CanonicalSessionEntry where
  session := ⟨"niri", "Niri", .wayland⟩
  sourcePath := asciiPath "/usr/share/niri.desktop"
  exec := exec.toList
  tryExec := some "niri".toList

theorem niriHost_canonical (path path' : Bytes) (h : niriHost.canonicalize path = some path') :
    Canonical path' := by
  unfold niriHost at h
  dsimp only at h
  split at h
  next hpath =>
    cases h
    rw [hpath]
    decide +kernel
  next => cases h

def niriSpec (argv : List String) : ResolvedSessionLaunchSpec :=
  ⟨⟨"niri", "Niri", .wayland⟩, asciiPath "/usr/share/niri.desktop", asciiPath "/usr/bin/niri",
    argv.map asciiPath⟩

theorem niri_session_valid : resolve niriHost niriHost (niriEntry "niri --session")
      [asciiPath "/usr/bin"] = some (niriSpec ["niri", "--session"]) ∧
    ((launchPlan (niriSpec ["niri", "--session"])).validate = true ↔
      ¬ WritesEmptyArgument "niri --session".toList) :=
  ⟨by decide +kernel, validate_launchPlan_iff niriHost niriHost (niriEntry "niri --session")
    [asciiPath "/usr/bin"] (niriSpec ["niri", "--session"]) niriHost_canonical
    (by decide +kernel) (by decide +kernel)⟩

/-- An empty argument is launchable for discovery and malformed for the worker. -/
theorem empty_argument_refused : ∃ host tryHost entry searchPath spec,
    (∀ path path', FileHost.canonicalize host path = some path' → Canonical path') ∧
      Canonical entry.sourcePath ∧ resolve host tryHost entry searchPath = some spec ∧
      (launchPlan spec).validate = false :=
  ⟨niriHost, niriHost, niriEntry "niri \"\"", [asciiPath "/usr/bin"], niriSpec ["niri", ""],
    niriHost_canonical, by decide +kernel, by decide +kernel, by decide +kernel⟩

end Agreement

end Niralis.LaunchPlan

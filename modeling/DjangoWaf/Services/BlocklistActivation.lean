import DjangoWaf.Lib.PyBytes
import Mathlib.Logic.Function.Basic

/-!
# Putting a blocklist in its place

`_activate_candidate` and `_validate_nginx_config` of `services/blocklist_generator.py`. A candidate
stands in a temporary file next to the destination. With validation on, the file at the destination
is copied aside to `.last-good`, the candidate is renamed over it, and the test command is run; what
came of the command decides whether the copy is put back or dropped.

The command is run with `text=True`, so what it printed is **decoded** before its exit status is
looked at. Three exceptions of `subprocess.run` are handled; that of the decoder is not, and leaves
both functions.

The file operations succeed, and the command changes no file of the three.
-/

namespace DjangoWaf

/-! ### Files -/

/-- The regular files, by path. -/
abbrev Files := String → Option (List UInt8)

/-- `os.rename`. -/
def Files.rename (fs : Files) (src dst : String) : Files :=
  if src = dst then fs else Function.update (Function.update fs dst (fs src)) src none

/-- `shutil.copy2`. -/
def Files.copy2 (fs : Files) (src dst : String) : Files := Function.update fs dst (fs src)

/-- `os.unlink`. -/
def Files.unlink (fs : Files) (path : String) : Files := Function.update fs path none

/-- What `generate_nginx_blocklist` hands over: a candidate it has written to a new file, under a
name `mkstemp` made with the suffix `.conf.tmp`. -/
structure Activation where
  stem : String
  dest : String
  files : Files
  candidate : List UInt8
  written : files (stem ++ ".conf.tmp") = some candidate
  stem_ne : stem ++ ".conf.tmp" ≠ dest

/-- `tmp_path`. -/
def Activation.tmpPath (a : Activation) : String := a.stem ++ ".conf.tmp"

/-- `last_good`. -/
def Activation.lastGood (a : Activation) : String := a.dest ++ ".last-good"

/-! ### The test command -/

/-- How `subprocess.run` of the test command ends. -/
inductive CommandOutcome
  | exited (returncode : ℤ) (stdout stderr : List UInt8)
  /-- `TimeoutExpired`. -/
  | timedOut
  /-- `FileNotFoundError`. -/
  | notFound
  /-- Any other `OSError`. -/
  | osError
  deriving DecidableEq

/-- The exception that leaves the two functions. -/
inductive ActivationError
  | unicodeDecodeError
  deriving DecidableEq

/-- `_validate_nginx_config`, in a locale with some decoder. -/
def validateNginxConfig (decode : List UInt8 → Option String) :
    CommandOutcome → Except ActivationError (Option Bool)
  | .notFound => .ok none
  | .timedOut => .ok (some false)
  | .osError => .ok (some false)
  | .exited returncode stdout stderr =>
    match decode stdout, decode stderr with
    | some _, some _ => .ok (some (returncode = 0))
    | none, _ | _, none => .error .unicodeDecodeError

/-- `_activate_candidate`: how it ends, and the files it leaves. -/
def activateCandidate (validate : Bool) (decode : List UInt8 → Option String)
    (outcome : CommandOutcome) (a : Activation) : Except ActivationError Unit × Files :=
  if !validate then (.ok (), a.files.rename a.tmpPath a.dest)
  else
    let hadPrevious := (a.files a.dest).isSome
    let fs := if hadPrevious then a.files.copy2 a.dest a.lastGood else a.files
    let fs := fs.rename a.tmpPath a.dest
    match validateNginxConfig decode outcome with
    | .error e => (.error e, fs)
    | .ok (some false) =>
      (.ok (), if hadPrevious then fs.rename a.lastGood a.dest else fs.unlink a.dest)
    | .ok (some true) | .ok none => (.ok (), if hadPrevious then fs.unlink a.lastGood else fs)

/-! ### Three paths -/

namespace Activation

variable (a : Activation)

theorem tmpPath_ne_dest : a.tmpPath ≠ a.dest := a.stem_ne

theorem dest_ne_lastGood : a.dest ≠ a.lastGood := by
  intro h
  have hlength := congrArg String.length h
  rw [lastGood, String.length_append] at hlength
  have : ".last-good".length = 10 := rfl
  omega

/-- The suffixes differ. -/
theorem tmpPath_ne_lastGood : a.tmpPath ≠ a.lastGood := by
  intro h
  have hlast := congrArg (fun s : String ↦ s.toList.getLast?) h
  simp only [tmpPath, lastGood, String.toList_append] at hlast
  have htmp : ".conf.tmp".toList = ".conf.tm".toList ++ ['p'] := rfl
  have hgood : ".last-good".toList = ".last-goo".toList ++ ['d'] := rfl
  rw [htmp, hgood, ← List.append_assoc, ← List.append_assoc, List.getLast?_concat,
    List.getLast?_concat] at hlast
  exact absurd hlast (by decide)

/-- The files when the temporary one is gone, with some files at the other two paths. -/
def leaving (dest lastGood : Option (List UInt8)) : Files := fun path ↦
  if path = a.tmpPath then none
  else if path = a.dest then dest
  else if path = a.lastGood then lastGood
  else a.files path

variable {a} {dest lastGood : Option (List UInt8)}

@[simp] theorem leaving_tmpPath : a.leaving dest lastGood a.tmpPath = none := if_pos rfl

@[simp] theorem leaving_dest : a.leaving dest lastGood a.dest = dest := by
  rw [leaving, if_neg a.tmpPath_ne_dest.symm, if_pos rfl]

@[simp] theorem leaving_lastGood : a.leaving dest lastGood a.lastGood = lastGood := by
  rw [leaving, if_neg a.tmpPath_ne_lastGood.symm, if_neg a.dest_ne_lastGood.symm, if_pos rfl]

theorem leaving_other {path : String} (htmp : path ≠ a.tmpPath) (hdest : path ≠ a.dest)
    (hlast : path ≠ a.lastGood) : a.leaving dest lastGood path = a.files path := by
  rw [leaving, if_neg htmp, if_neg hdest, if_neg hlast]

/-- What the files are is settled at the three paths. -/
theorem eq_leaving {fs : Files} (htmp : fs a.tmpPath = none) (hdest : fs a.dest = dest)
    (hlast : fs a.lastGood = lastGood)
    (hother : ∀ path, path ≠ a.tmpPath → path ≠ a.dest → path ≠ a.lastGood →
      fs path = a.files path) : fs = a.leaving dest lastGood := by
  funext path
  rcases eq_or_ne path a.tmpPath with rfl | h₁
  · rw [htmp, leaving_tmpPath]
  rcases eq_or_ne path a.dest with rfl | h₂
  · rw [hdest, leaving_dest]
  rcases eq_or_ne path a.lastGood with rfl | h₃
  · rw [hlast, leaving_lastGood]
  · rw [hother path h₁ h₂ h₃, leaving_other h₁ h₂ h₃]

theorem rename_lastGood_leaving :
    (a.leaving dest lastGood).rename a.lastGood a.dest = a.leaving lastGood none := by
  rw [Files.rename, if_neg a.dest_ne_lastGood.symm]
  refine eq_leaving ?_ ?_ ?_ fun path h₁ h₂ h₃ ↦ ?_
  · rw [Function.update_of_ne a.tmpPath_ne_lastGood, Function.update_of_ne a.tmpPath_ne_dest,
      leaving_tmpPath]
  · rw [Function.update_of_ne a.dest_ne_lastGood, Function.update_self, leaving_lastGood]
  · rw [Function.update_self]
  · rw [Function.update_of_ne h₃, Function.update_of_ne h₂, leaving_other h₁ h₂ h₃]

theorem unlink_dest_leaving :
    (a.leaving dest lastGood).unlink a.dest = a.leaving none lastGood := by
  refine eq_leaving ?_ ?_ ?_ fun path h₁ h₂ h₃ ↦ ?_
  · rw [Files.unlink, Function.update_of_ne a.tmpPath_ne_dest, leaving_tmpPath]
  · rw [Files.unlink, Function.update_self]
  · rw [Files.unlink, Function.update_of_ne a.dest_ne_lastGood.symm, leaving_lastGood]
  · rw [Files.unlink, Function.update_of_ne h₂, leaving_other h₁ h₂ h₃]

theorem unlink_lastGood_leaving :
    (a.leaving dest lastGood).unlink a.lastGood = a.leaving dest none := by
  refine eq_leaving ?_ ?_ ?_ fun path h₁ h₂ h₃ ↦ ?_
  · rw [Files.unlink, Function.update_of_ne a.tmpPath_ne_lastGood, leaving_tmpPath]
  · rw [Files.unlink, Function.update_of_ne a.dest_ne_lastGood, leaving_dest]
  · rw [Files.unlink, Function.update_self]
  · rw [Files.unlink, Function.update_of_ne h₃, leaving_other h₁ h₂ h₃]

variable (a)

/-- The rename puts the candidate in place, and the copy stands beside it. -/
theorem rename_tmpPath :
    a.files.rename a.tmpPath a.dest = a.leaving (some a.candidate) (a.files a.lastGood) := by
  rw [Files.rename, if_neg a.tmpPath_ne_dest]
  refine eq_leaving ?_ ?_ ?_ fun path h₁ h₂ h₃ ↦ ?_
  · rw [Function.update_self]
  · rw [Function.update_of_ne a.tmpPath_ne_dest.symm, Function.update_self]
    exact a.written
  · rw [Function.update_of_ne a.tmpPath_ne_lastGood.symm,
      Function.update_of_ne a.dest_ne_lastGood.symm]
  · rw [Function.update_of_ne h₁, Function.update_of_ne h₂]

theorem copy2_rename_tmpPath : (a.files.copy2 a.dest a.lastGood).rename a.tmpPath a.dest =
    a.leaving (some a.candidate) (a.files a.dest) := by
  rw [Files.rename, if_neg a.tmpPath_ne_dest]
  refine eq_leaving ?_ ?_ ?_ fun path h₁ h₂ h₃ ↦ ?_
  · rw [Function.update_self]
  · rw [Function.update_of_ne a.tmpPath_ne_dest.symm, Function.update_self, Files.copy2,
      Function.update_of_ne a.tmpPath_ne_lastGood]
    exact a.written
  · rw [Function.update_of_ne a.tmpPath_ne_lastGood.symm,
      Function.update_of_ne a.dest_ne_lastGood.symm, Files.copy2, Function.update_self]
  · rw [Function.update_of_ne h₁, Function.update_of_ne h₂, Files.copy2,
      Function.update_of_ne h₃]

/-- A `.last-good` that this call did not make: there is nothing to keep where it made one. -/
def sparedLastGood : Option (List UInt8) :=
  if (a.files a.dest).isSome then none else a.files a.lastGood

end Activation

/-- **What an activation leaves**: the previous file where the validation failed, the candidate
otherwise, and the copy too where the validation raised. -/
theorem activateCandidate_eq (decode : List UInt8 → Option String) (outcome : CommandOutcome)
    (a : Activation) : activateCandidate true decode outcome a =
      match validateNginxConfig decode outcome with
      | .error e =>
        (.error e, a.leaving (some a.candidate) ((a.files a.dest).or (a.files a.lastGood)))
      | .ok (some false) => (.ok (), a.leaving (a.files a.dest) a.sparedLastGood)
      | .ok (some true) | .ok none => (.ok (), a.leaving (some a.candidate) a.sparedLastGood) := by
  rw [activateCandidate, if_neg (by decide), Activation.sparedLastGood]
  rcases hprev : a.files a.dest with - | previous
  · simp only [Option.isSome_none, Bool.false_eq_true, if_false, Option.none_or, a.rename_tmpPath,
      Activation.unlink_dest_leaving]
  · simp only [Option.isSome_some, if_true, Option.some_or, a.copy2_rename_tmpPath, hprev,
      Activation.rename_lastGood_leaving, Activation.unlink_lastGood_leaving]

end DjangoWaf

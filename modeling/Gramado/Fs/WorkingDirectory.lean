import Gramado.Fs.Directory
import Gramado.Fs.ReadWrite
import Gramado.Lib.Memory
import Gramado.Lib.Run
import Gramado.Lib.Scan

/-!
# The working directory

Every process has a string `cwd_string` of 32 bytes with the path of its working directory.
`fsUpdateWorkingDiretoryString` of `kres/fs/fslib.c` appends a component with `strcat`,
`fs_pathname_backup` walks backwards over the string to remove components.

* `PathContract` — what the two calls promise about the strings of all processes.
* `PathCondition` — the component fits, and a string is backed up by one component, or has only one.

`cwd_iff` says that the second decides the first.
-/

namespace Gramado

open StepRun Memory

/-! ## The functions -/

/-- The size of `cwd_string`. -/
def CWD_SIZE : ℕ := 32

/-- `'/'`. -/
def SLASH : UInt8 := 0x2F

/-- The fields of `struct process_d` in use; `cwdString` is the address of the string. -/
structure CwdProcess where
  used : ℤ
  magic : ℤ
  cwdString : ℕ

/-- Memory, `CWD.initialized`, `CWD.path`, `current_target_dir.name` and the processes. -/
structure CwdState where
  mem : Memory UInt8
  initialized : ℤ
  path : List UInt8
  targetName : List UInt8
  processList : ℕ → Option CwdProcess

/-- The address of the first zero from `dst` on. -/
def strEnd (m : Memory UInt8) (dst : ℕ) : Option ℕ :=
  Scan.forward (fun a => m.cell a = 0) (2 ^ 64 - dst) dst

/-- `strcat` of the bytes of a string. -/
def strcat (m : Memory UInt8) (dst : ℕ) (text : List UInt8) : Except Fault (Memory UInt8) :=
  match strEnd m dst with
  | none => .error .badPointer
  | some e => .ok (m.store e (text ++ [0]))

/-- The bytes of a string. -/
def CString.text (s : CString) : List UInt8 := (List.range s.strlen).map s.bytes

/-- `fsUpdateWorkingDiretoryString`, called while `currentProcess` is the current one. -/
def fsUpdateWorkingDirectoryString (currentProcess : ℤ) (string : Option CString) (s : CwdState) :
    Except Fault CwdState :=
  if s.initialized ≠ TRUE then .ok s
  else
    match string with
    | none => .ok s
    | some string =>
        if string.bytes 0 = 0 then .ok s
        else if currentProcess < 0 ∨ currentProcess ≥ PROCESS_COUNT_MAX then
          .error (.panic "fsUpdateWorkingDiretoryString: current_process\n")
        else
          match s.processList currentProcess.toNat with
          | none => .error (.panic "fsUpdateWorkingDiretoryString: p\n")
          | some p =>
              if p.used ≠ 1 ∨ p.magic ≠ 1234 then
                .error (.panic "fsUpdateWorkingDiretoryString: p validation\n")
              else do
                let mem ← strcat s.mem p.cwdString string.text
                let mem ← strcat mem p.cwdString [SLASH]
                .ok { s with
                  mem := mem
                  path := mem.slice p.cwdString 31 ++ [0]
                  targetName := (List.range 11).map string.bytes ++ [0] }

/-- One round of the loop of `fs_pathname_backup`, on the memory and the pointer `s`. -/
def backupRound (m : Memory UInt8) (s : ℕ) : Except Fault (Memory UInt8 × ℕ) :=
  match Scan.backward (fun a => m.cell a ≠ SLASH) s with
  | none => .error .badPointer
  | some s =>
      match Scan.backward (fun a => m.cell a = SLASH) s with
      | none => .error .badPointer
      | some s => .ok (m.store (s + 1 : ℕ) [0], s + 1)

/-- The loop of `fs_pathname_backup`. -/
def backupRounds : ℕ → Memory UInt8 → ℕ → Except Fault (Memory UInt8)
  | 0, m, _ => .ok m
  | n + 1, m, s => do
      let (m, s) ← backupRound m s
      backupRounds n m s

/-- `fs_pathname_backup`. -/
def fsPathnameBackup (pid n : ℤ) (s : CwdState) : Except Fault CwdState :=
  if s.initialized ≠ TRUE then .ok s
  else if pid < 0 ∨ pid ≥ PROCESS_COUNT_MAX then .ok s
  else if n ≤ 0 then .ok s
  else
    match s.processList pid.toNat with
    | none => .error (.panic "fsUpdateWorkingDiretoryString: p\n")
    | some p =>
        if p.used ≠ TRUE ∨ p.magic ≠ 1234 then
          .error (.panic "fsUpdateWorkingDiretoryString: validation\n")
        else
          match strEnd s.mem p.cwdString with
          | none => .error .badPointer
          | some e => do
              let start := if s.mem.cell p.cwdString ≠ 0 then e - 1 else e
              let mem ← backupRounds n.toNat s.mem start
              .ok { s with
                mem := mem
                path := mem.slice p.cwdString 32
                targetName := List.replicate 11 0 ++ s.targetName.drop 11 }

/-! ## Paths -/

/-- A component of a path: some bytes, none of them a slash or a zero. -/
def IsComponent (c : List UInt8) : Prop := c ≠ [] ∧ ∀ b ∈ c, b ≠ SLASH ∧ b ≠ 0

/-- The path of the components: a slash in front and a slash behind each. -/
def pathString (cs : List (List UInt8)) : List UInt8 := SLASH :: cs.flatMap (· ++ [SLASH])

/-- The buffer at `p` holds the path of the components and a zero behind it. -/
structure HoldsPath (m : Memory UInt8) (p : ℕ) (cs : List (List UInt8)) : Prop where
  components : ∀ c ∈ cs, IsComponent c
  fits : (pathString cs).length < CWD_SIZE
  text : m.slice p ((pathString cs).length + 1) = pathString cs ++ [0]

/-! ## Runs -/

/-- The calls: a component is appended by the current process, or a process is backed up. -/
inductive CwdCall where
  | append (currentProcess : ℤ) (string : CString) (component : IsComponent string.text)
  | backup (pid n : ℤ)

/-- One call. -/
def cwdStep (s : CwdState) : CwdCall → Except Fault CwdState
  | .append currentProcess string _ => fsUpdateWorkingDirectoryString currentProcess (some string) s
  | .backup pid n => fsPathnameBackup pid n s

/-- A process that both functions accept. -/
structure IsProcess (s : CwdState) (pid : ℤ) (p : CwdProcess) : Prop where
  lo : 0 ≤ pid
  hi : pid < PROCESS_COUNT_MAX
  listed : s.processList pid.toNat = some p
  used : p.used = TRUE
  magic : p.magic = 1234

/-- The strings of all processes are paths. -/
def AllPaths (s : CwdState) : Prop :=
  ∀ pid p, IsProcess s pid p → ∃ cs, HoldsPath s.mem p.cwdString cs

/-- **What a call promises.**  All strings are paths, in their buffers and not blank.  Appending adds
a component, and backing up once restores the path; backing up by `n` removes the last `n`
components, or all of them.  Nothing is written outside the buffer of the process. -/
def PathContract (s : CwdState) (c : CwdCall) (s' : CwdState) : Prop :=
  AllPaths s' ∧
    match c with
    | .append currentProcess string _ => ∀ p cs, IsProcess s currentProcess p →
        HoldsPath s.mem p.cwdString cs →
          UsesWithin s.mem s'.mem p.cwdString (p.cwdString + CWD_SIZE) ∧
          HoldsPath s'.mem p.cwdString (cs ++ [string.text]) ∧
          ∃ s'', fsPathnameBackup currentProcess 1 s' = .ok s'' ∧ HoldsPath s''.mem p.cwdString cs
    | .backup pid n => ∀ p cs, IsProcess s pid p → HoldsPath s.mem p.cwdString cs →
        UsesWithin s.mem s'.mem p.cwdString (p.cwdString + CWD_SIZE) ∧
        HoldsPath s'.mem p.cwdString (cs.take (cs.length - n.toNat))

/-- The component, its slash and the zero fit in the buffer; a backup is by one component, or the path
has only one, and never is it the root. -/
def PathCondition (s : CwdState) : CwdCall → Prop
  | .append currentProcess string _ => ∀ p cs, IsProcess s currentProcess p →
      HoldsPath s.mem p.cwdString cs → (pathString cs).length + string.strlen + 2 ≤ CWD_SIZE
  | .backup pid n => n ≤ 0 ∨ ∀ p cs, IsProcess s pid p → HoldsPath s.mem p.cwdString cs →
      cs ≠ [] ∧ (n = 1 ∨ cs.length = 1)

/-- The strings are set up, in buffers that do not overlap. -/
structure CwdReady (s : CwdState) : Prop where
  initialized : s.initialized = TRUE
  apart : ∀ i j p q, i ≠ j → s.processList i = some p → s.processList j = some q →
    p.cwdString + CWD_SIZE ≤ q.cwdString ∨ q.cwdString + CWD_SIZE ≤ p.cwdString
  addressed : ∀ i p, s.processList i = some p → p.cwdString + CWD_SIZE < 2 ^ 64
  paths : AllPaths s

/-! ## Strings in memory -/

/-- The string at `p` has the bytes `t`. -/
def HoldsText (m : Memory UInt8) (p : ℕ) (t : List UInt8) : Prop :=
  m.slice p (t.length + 1) = t ++ [0]

section Text

variable {m m' : Memory UInt8} {p q : ℕ} {t u : List UInt8}

lemma HoldsText.cell (h : HoldsText m p t) {k : ℕ} (hk : k < t.length) :
    m.cell (p + k : ℕ) = t[k] := by
  have hget := List.getElem_of_eq h (by rw [slice_length]; omega : k < _)
  rw [getElem_slice, List.getElem_append_left hk] at hget
  exact_mod_cast hget

lemma HoldsText.zero (h : HoldsText m p t) : m.cell (p + t.length : ℕ) = 0 := by
  have hget := List.getElem_of_eq h (by rw [slice_length]; omega : t.length < _)
  rw [getElem_slice, List.getElem_concat_length rfl] at hget
  exact_mod_cast hget

/-- The string ends where its first zero is. -/
lemma HoldsText.strEnd (h : HoldsText m p t) (hne : ∀ b ∈ t, b ≠ 0) (hlt : p + t.length < 2 ^ 64) :
    strEnd m p = some (p + t.length) := by
  refine Scan.forward_eq_some (Nat.le_add_right _ _) (by omega) h.zero fun k hlo hhi => ?_
  obtain ⟨i, rfl⟩ : ∃ i, k = p + i := ⟨k - p, by omega⟩
  rw [h.cell (by omega)]
  exact hne _ (List.getElem_mem _)

/-- A string is cut by a zero in it. -/
lemma HoldsText.cut (h : HoldsText m p (t ++ u)) : HoldsText (m.store (p + t.length : ℕ) [0]) p t := by
  rw [HoldsText, slice_append, slice_store_apart (by push_cast; omega)]
  congr 1
  · rw [HoldsText, List.length_append, add_assoc, slice_append, List.append_assoc] at h
    exact (List.append_inj h slice_length).1
  · exact_mod_cast slice_store_same rfl

/-- A string is continued at its end. -/
lemma HoldsText.append (h : HoldsText m p t) :
    HoldsText (m.store (p + t.length : ℕ) (u ++ [0])) p (t ++ u) := by
  rw [HoldsText, List.length_append, add_assoc, slice_append,
    slice_store_apart (by push_cast; omega), List.append_assoc]
  congr 1
  · rw [HoldsText, slice_append] at h
    exact (List.append_inj h slice_length).1
  · have hlen : (u ++ [(0 : UInt8)]).length = u.length + 1 := by simp
    exact_mod_cast slice_store_same hlen

lemma strcat_eq (h : HoldsText m p t) (hne : ∀ b ∈ t, b ≠ 0) (hlt : p + t.length < 2 ^ 64) :
    strcat m p u = .ok (m.store (p + t.length : ℕ) (u ++ [0])) := by
  rw [strcat, h.strEnd hne hlt]

end Text

/-! ## Paths in memory -/

section Paths

variable {m : Memory UInt8} {p : ℕ} {cs ds : List (List UInt8)} {c : List UInt8}

lemma pathString_concat : pathString (cs ++ [c]) = pathString cs ++ (c ++ [SLASH]) := by
  simp [pathString]

lemma pathString_pos : 0 < (pathString cs).length := by
  simp [pathString]

/-- A path ends in a slash. -/
lemma pathString_last : ∃ t, pathString cs = t ++ [SLASH] := by
  induction cs using List.reverseRecOn with
  | nil => exact ⟨[], rfl⟩
  | append_singleton cs c => exact ⟨pathString cs ++ c, by rw [pathString_concat, List.append_assoc]⟩

lemma pathString_ne_zero (hcs : ∀ c ∈ cs, IsComponent c) : ∀ b ∈ pathString cs, b ≠ 0 := by
  intro b hb
  rcases List.mem_cons.1 hb with rfl | hb
  · decide
  · obtain ⟨c, hc, hb⟩ := List.mem_flatMap.1 hb
    rcases List.mem_append.1 hb with hb | hb
    · exact ((hcs c hc).2 b hb).2
    · rw [List.mem_singleton.1 hb]
      decide

/-- A path has one slash more than components. -/
lemma pathString_count (hcs : ∀ c ∈ cs, IsComponent c) :
    (pathString cs).count SLASH = cs.length + 1 := by
  induction cs using List.reverseRecOn with
  | nil => rfl
  | append_singleton cs c ih =>
      have hc := hcs c (by simp)
      have hnone : c.count SLASH = 0 := List.count_eq_zero.2 fun hmem => (hc.2 _ hmem).1 rfl
      rw [pathString_concat, List.count_append, List.count_append, hnone,
        ih fun d hd => hcs d (by simp [hd])]
      simp

lemma HoldsPath.text' (h : HoldsPath m p cs) : HoldsText m p (pathString cs) := h.text

lemma HoldsPath.ne_zero (h : HoldsPath m p cs) : ∀ b ∈ pathString cs, b ≠ 0 :=
  pathString_ne_zero h.components

lemma HoldsPath.strEnd (h : HoldsPath m p cs) (hp : p + CWD_SIZE < 2 ^ 64) :
    strEnd m p = some (p + (pathString cs).length) := by
  have hfits := h.fits
  exact h.text'.strEnd h.ne_zero (by omega)

/-- A buffer holds one string. -/
lemma HoldsText.eq_path {t : List UInt8} (ht : HoldsText m p t) (hne : ∀ b ∈ t, b ≠ 0)
    (h : HoldsPath m p cs) : t = pathString cs := by
  have hlen : t.length = (pathString cs).length := by
    rcases Nat.lt_trichotomy t.length (pathString cs).length with hlt | heq | hgt
    · have hcell := h.text'.cell hlt
      rw [ht.zero] at hcell
      exact absurd hcell.symm (h.ne_zero _ (List.getElem_mem _))
    · exact heq
    · have hcell := ht.cell hgt
      rw [h.text'.zero] at hcell
      exact absurd hcell.symm (hne _ (List.getElem_mem _))
  have htext := h.text
  rw [← hlen, ht] at htext
  exact List.append_cancel_right htext

lemma HoldsPath.length_eq (h : HoldsPath m p cs) (h' : HoldsPath m p ds) : cs.length = ds.length := by
  have hcount := pathString_count h.components
  rw [h.text'.eq_path h.ne_zero h', pathString_count h'.components] at hcount
  omega

end Paths

/-! ## Backing up -/

section Backup

variable {m m' : Memory UInt8} {p n : ℕ} {cs : List (List UInt8)} {c : List UInt8}

/-- From the last slash of a path, a round goes back over the last component. -/
lemma backupRound_last (h : HoldsPath m p (cs ++ [c])) :
    backupRound m (p + (pathString (cs ++ [c])).length - 1)
      = .ok (m.store (p + (pathString cs).length : ℕ) [0], p + (pathString cs).length) := by
  obtain ⟨t, ht⟩ := @pathString_last cs
  obtain ⟨hne, hc⟩ := h.components c (by simp)
  have hpos := List.length_pos_of_ne_nil hne
  have htext := h.text'
  have hsplit : pathString (cs ++ [c]) = t ++ [SLASH] ++ c ++ [SLASH] := by
    rw [pathString_concat, ht, List.append_assoc, List.append_assoc, List.append_assoc]
  rw [hsplit] at htext
  have hlen : (pathString (cs ++ [c])).length = t.length + 1 + c.length + 1 := by
    simp only [hsplit, List.length_append, List.length_singleton]
  have hlen₀ : (pathString cs).length = t.length + 1 := by
    rw [ht]
    simp
  have hcomponent : ∀ k, t.length + 1 ≤ k → k < t.length + 1 + c.length →
      m.cell (p + k : ℕ) ≠ SLASH := by
    intro k hlo hhi
    rw [htext.cell (by simp; omega), List.getElem_append_left (by simp; omega),
      List.getElem_append_right (by simp; omega)]
    exact (hc _ (List.getElem_mem _)).1
  have hslash : m.cell (p + t.length : ℕ) = SLASH := by
    rw [htext.cell (by simp), List.getElem_append_left (by simp),
      List.getElem_append_left (by simp), List.getElem_concat_length rfl]
  have hlast : m.cell (p + (t.length + 1 + c.length) : ℕ) = SLASH := by
    rw [htext.cell (by simp; omega), List.getElem_concat_length (by simp; omega)]
  have hskip : Scan.backward (fun a => m.cell (a : ℕ) ≠ SLASH)
      (p + (t.length + 1 + c.length + 1) - 1) = some (p + (t.length + c.length)) := by
    refine Scan.backward_eq_some (by omega) (hcomponent _ (by omega) (by omega)) fun k hlo hhi => ?_
    obtain rfl : k = p + (t.length + 1 + c.length) := by omega
    rw [not_not]
    exact hlast
  have hback : Scan.backward (fun a => m.cell (a : ℕ) = SLASH) (p + (t.length + c.length))
      = some (p + t.length) := by
    refine Scan.backward_eq_some (by omega) hslash fun k hlo hhi => ?_
    obtain ⟨i, rfl⟩ : ∃ i, k = p + i := ⟨k - p, by omega⟩
    exact hcomponent i (by omega) (by omega)
  simp only [backupRound, hlen, hskip, hback, hlen₀]
  rfl

/-- From the zero behind a path, a round goes to the last slash and comes back. -/
lemma backupRound_end (h : HoldsPath m p cs) :
    backupRound m (p + (pathString cs).length)
      = .ok (m.store (p + (pathString cs).length : ℕ) [0], p + (pathString cs).length) := by
  obtain ⟨t, ht⟩ := @pathString_last cs
  have htext := h.text'
  rw [ht] at htext ⊢
  have hzero := htext.zero
  have hslash : m.cell (p + t.length : ℕ) = SLASH := by
    rw [htext.cell (by simp), List.getElem_concat_length rfl]
  rw [List.length_append, List.length_singleton] at hzero ⊢
  have hskip : Scan.backward (fun a => m.cell (a : ℕ) ≠ SLASH) (p + (t.length + 1))
      = some (p + (t.length + 1)) := by
    refine Scan.backward_eq_some le_rfl ?_ fun k hlo hhi => by omega
    rw [hzero]
    decide
  have hback : Scan.backward (fun a => m.cell (a : ℕ) = SLASH) (p + (t.length + 1))
      = some (p + t.length) := by
    refine Scan.backward_eq_some (by omega) hslash fun k hlo hhi => ?_
    obtain rfl : k = p + (t.length + 1) := by omega
    rw [hzero]
    decide
  simp only [backupRound, hskip, hback]
  rfl

/-- Cut at the end of a path, the buffer holds the path. -/
lemma HoldsPath.cut {ds : List (List UInt8)} (h : HoldsPath m p (cs ++ ds)) :
    HoldsPath (m.store (p + (pathString cs).length : ℕ) [0]) p cs ∧
      UsesWithin m (m.store (p + (pathString cs).length : ℕ) [0]) p (p + CWD_SIZE) := by
  have hsplit : pathString (cs ++ ds) = pathString cs ++ ds.flatMap (· ++ [SLASH]) := by
    simp [pathString]
  have hfits := h.fits
  have htext := h.text'
  rw [hsplit] at hfits htext
  rw [List.length_append] at hfits
  refine ⟨⟨fun c hc => h.components c (by simp [hc]), by omega, htext.cut⟩, ?_⟩
  refine usesWithin_store (by push_cast; omega) ?_
  simp only [List.length_singleton]
  push_cast
  omega

/-- Further rounds change nothing. -/
lemma backupRounds_end (h : HoldsPath m p cs) :
    ∃ m', backupRounds n m (p + (pathString cs).length) = .ok m' ∧ HoldsPath m' p cs ∧
      UsesWithin m m' p (p + CWD_SIZE) := by
  induction n generalizing m with
  | zero => exact ⟨m, rfl, h, UsesWithin.refl m⟩
  | succ n ih =>
      have hall : HoldsPath m p (cs ++ []) := by rwa [List.append_nil]
      have hcut := hall.cut
      obtain ⟨m', hrounds, hpath, huses⟩ := ih hcut.1
      refine ⟨m', ?_, hpath, hcut.2.trans huses⟩
      rw [backupRounds, backupRound_end h]
      exact hrounds

/-- **The rounds take away the last component, however many they are.** -/
lemma backupRounds_last (h : HoldsPath m p (cs ++ [c])) :
    ∃ m', backupRounds (n + 1) m (p + (pathString (cs ++ [c])).length - 1) = .ok m' ∧
      HoldsPath m' p cs ∧ UsesWithin m m' p (p + CWD_SIZE) := by
  obtain ⟨hpath, huses⟩ := h.cut
  obtain ⟨m', hrounds, hpath', huses'⟩ := backupRounds_end hpath
  refine ⟨m', ?_, hpath', huses.trans huses'⟩
  rw [backupRounds, backupRound_last h]
  exact hrounds

/-- A round that starts at the first slash of the buffer writes in front of it. -/
lemma backupRound_root {s : ℕ} (hslash : m.cell p = SLASH) (h : backupRound m p = .ok (m', s)) :
    s < p ∧ m' = m.store s [0] := by
  unfold backupRound at h
  split at h
  · cases h
  · next a ha =>
      obtain ⟨hle, hne⟩ := Scan.backward_le ha
      split at h
      · cases h
      · next b hb =>
          obtain ⟨hle', heq⟩ := Scan.backward_le hb
          obtain ⟨rfl, rfl⟩ := Prod.mk.inj (Except.ok.inj h)
          have hap : a ≠ p := by
            rintro rfl
            exact hne hslash
          have hba : b ≠ a := by
            rintro rfl
            exact hne heq
          exact ⟨by omega, rfl⟩

/-- Later rounds only add to the record of what was written. -/
lemma backupRounds_touched {s : ℕ} (h : backupRounds n m s = .ok m') :
    ∃ new, m'.touched = new ++ m.touched := by
  induction n generalizing m s with
  | zero =>
      obtain rfl := Except.ok.inj h
      exact ⟨[], rfl⟩
  | succ n ih =>
      rw [backupRounds] at h
      obtain ⟨⟨m₁, s₁⟩, hround, hrest⟩ := bind_eq_ok h
      obtain ⟨new, hnew⟩ := ih hrest
      unfold backupRound at hround
      split at hround
      · cases hround
      · split at hround
        · cases hround
        · obtain ⟨rfl, rfl⟩ := Prod.mk.inj (Except.ok.inj hround)
          exact ⟨new ++ [_], by rw [hnew, List.append_assoc]; rfl⟩

/-- **Backed up from the root, a process writes outside its buffer.** -/
lemma backupRounds_root (h : HoldsPath m p []) (hrounds : backupRounds (n + 1) m p = .ok m') :
    ¬UsesWithin m m' p (p + CWD_SIZE) := by
  intro huses
  rw [backupRounds] at hrounds
  obtain ⟨⟨m₁, s₁⟩, hround, hrest⟩ := bind_eq_ok hrounds
  have hslash : m.cell (p + 0 : ℕ) = SLASH := h.text'.cell (by decide)
  obtain ⟨hlt, rfl⟩ := backupRound_root hslash hround
  obtain ⟨new, hnew⟩ := backupRounds_touched hrest
  have hinside := huses.mem
    (by rw [hnew, List.append_assoc]; rfl : m'.touched = (new ++ [((s₁ : ℤ), 1)]) ++ m.touched)
    (List.mem_append_right _ (List.mem_singleton.2 rfl))
  simp only at hinside
  omega

end Backup

/-! ## The calls -/

section Calls

variable {s s' : CwdState} {pid n : ℤ} {p q : CwdProcess} {cs : List (List UInt8)}
  {string : CString}

lemma IsProcess.unique (hp : IsProcess s pid p) (hq : IsProcess s pid q) : p = q :=
  Option.some.inj (hp.listed.symm.trans hq.listed)

/-- What a backup leaves, once the rounds are done. -/
def CwdState.backedUp (s : CwdState) (p : CwdProcess) (mem : Memory UInt8) : CwdState :=
  { s with
    mem := mem
    path := mem.slice p.cwdString 32
    targetName := List.replicate 11 0 ++ s.targetName.drop 11 }

/-- What an append leaves, once the string is in place. -/
def CwdState.appended (s : CwdState) (p : CwdProcess) (string : CString) (mem : Memory UInt8) :
    CwdState :=
  { s with
    mem := mem
    path := mem.slice p.cwdString 31 ++ [0]
    targetName := (List.range 11).map string.bytes ++ [0] }

lemma IsProcess.range (hp : IsProcess s pid p) : ¬(pid < 0 ∨ pid ≥ PROCESS_COUNT_MAX) :=
  not_or.2 ⟨not_lt.2 hp.lo, not_le.2 hp.hi⟩

lemma IsProcess.valid (hp : IsProcess s pid p) : ¬(p.used ≠ TRUE ∨ p.magic ≠ 1234) :=
  not_or.2 ⟨not_not.2 hp.used, not_not.2 hp.magic⟩

/-- A backup starts at the last slash of the path. -/
lemma fsPathnameBackup_eq (h : CwdReady s) (hp : IsProcess s pid p)
    (hpath : HoldsPath s.mem p.cwdString cs) (hn : 0 < n) :
    fsPathnameBackup pid n s =
      (backupRounds n.toNat s.mem (p.cwdString + (pathString cs).length - 1) >>= fun mem =>
        .ok (s.backedUp p mem)) := by
  have hslash : s.mem.cell (p.cwdString + 0 : ℕ) = SLASH := hpath.text'.cell pathString_pos
  have hcell : s.mem.cell p.cwdString ≠ 0 := by
    rw [Nat.add_zero] at hslash
    rw [hslash]
    decide
  rw [fsPathnameBackup, if_neg (not_not.2 h.initialized), if_neg hp.range, if_neg (not_le.2 hn),
    hp.listed]
  dsimp only
  rw [if_neg hp.valid, hpath.strEnd (h.addressed _ _ hp.listed)]
  dsimp only
  rw [if_pos hcell]
  rfl

/-- **A backup of a path that is not the root takes away its last component.** -/
lemma fsPathnameBackup_last (h : CwdReady s) (hp : IsProcess s pid p) {c : List UInt8}
    (hpath : HoldsPath s.mem p.cwdString (cs ++ [c])) (hn : 0 < n) :
    ∃ mem, fsPathnameBackup pid n s = .ok (s.backedUp p mem) ∧ HoldsPath mem p.cwdString cs ∧
      UsesWithin s.mem mem p.cwdString (p.cwdString + CWD_SIZE) := by
  obtain ⟨k, hk⟩ : ∃ k, n.toNat = k + 1 := ⟨n.toNat - 1, by omega⟩
  obtain ⟨mem, hrounds, hcs, huses⟩ := backupRounds_last (n := k) hpath
  refine ⟨mem, ?_, hcs, huses⟩
  rw [fsPathnameBackup_eq h hp hpath hn, hk, hrounds]
  rfl

/-- A component has bytes. -/
lemma IsComponent.head (h : IsComponent string.text) : string.bytes 0 ≠ 0 := by
  have hlen : 0 < string.strlen := by
    have hpos := List.length_pos_of_ne_nil h.1
    simpa [CString.text] using hpos
  exact CString.ne_zero hlen

/-- Two strings are put behind the path: the component, and a slash. -/
def appendMem (m : Memory UInt8) (p : ℕ) (cs : List (List UInt8)) (c : List UInt8) :
    Memory UInt8 :=
  (m.store (p + (pathString cs).length : ℕ) (c ++ [0])).store
    (p + (pathString cs ++ c).length : ℕ) ([SLASH] ++ [0])

/-- The buffer, or what is behind it, holds the new path, whether or not it fits. -/
lemma appendMem_text {m : Memory UInt8} {a : ℕ} {c : List UInt8} (hpath : HoldsPath m a cs) :
    HoldsText (appendMem m a cs c) a (pathString (cs ++ [c])) := by
  rw [pathString_concat, ← List.append_assoc]
  exact hpath.text'.append.append

/-- An append puts the component and a slash behind the path. -/
lemma fsUpdate_eq (h : CwdReady s) (hp : IsProcess s pid p)
    (hpath : HoldsPath s.mem p.cwdString cs) (hcomponent : IsComponent string.text)
    (hs : fsUpdateWorkingDirectoryString pid (some string) s = .ok s') :
    s' = s.appended p string (appendMem s.mem p.cwdString cs string.text) := by
  have haddressed := h.addressed _ _ hp.listed
  have hfits := hpath.fits
  rw [fsUpdateWorkingDirectoryString, if_neg (not_not.2 h.initialized), if_neg hcomponent.head,
    if_neg hp.range, hp.listed] at hs
  dsimp only at hs
  rw [if_neg hp.valid, strcat_eq hpath.text' hpath.ne_zero (by omega), ok_bind] at hs
  obtain ⟨mem, hcat, hs⟩ := bind_eq_ok hs
  have htext := hpath.text'.append (u := string.text)
  have hne : ∀ b ∈ pathString cs ++ string.text, b ≠ 0 := by
    intro b hb
    rcases List.mem_append.1 hb with hb | hb
    · exact hpath.ne_zero b hb
    · exact (hcomponent.2 b hb).2
  have hroom : p.cwdString + (pathString cs ++ string.text).length < 2 ^ 64 := by
    -- the second scan found a zero below the end of memory, and it is not in the string
    rw [strcat] at hcat
    split at hcat
    · cases hcat
    · next e he =>
        obtain ⟨hle, hlt, hzero⟩ := Scan.forward_range he
        by_contra hover
        obtain ⟨i, rfl⟩ : ∃ i, e = p.cwdString + i := ⟨e - p.cwdString, by omega⟩
        rw [htext.cell (by omega)] at hzero
        exact hne _ (List.getElem_mem _) hzero
  rw [strcat_eq htext hne hroom] at hcat
  obtain rfl := Except.ok.inj hcat
  exact (Except.ok.inj hs).symm

/-- **An append that fits** adds the component, in the buffer. -/
lemma appendMem_fits {m : Memory UInt8} {a : ℕ} {c : List UInt8} (hpath : HoldsPath m a cs)
    (hc : IsComponent c) (hfits : (pathString cs).length + c.length + 2 ≤ CWD_SIZE) :
    HoldsPath (appendMem m a cs c) a (cs ++ [c]) ∧
      UsesWithin m (appendMem m a cs c) a (a + CWD_SIZE) := by
  refine ⟨⟨?_, ?_, appendMem_text hpath⟩, UsesWithin.trans (usesWithin_store ?_ ?_)
    (usesWithin_store ?_ ?_)⟩
  · intro d hd
    rcases List.mem_append.1 hd with hd | hd
    · exact hpath.components d hd
    · rw [List.mem_singleton.1 hd]
      exact hc
  · simp only [pathString_concat, List.length_append, List.length_singleton]
    omega
  · push_cast
    omega
  · simp only [List.length_append, List.length_singleton]
    push_cast
    omega
  · push_cast
    omega
  · simp only [List.length_append, List.length_singleton]
    push_cast
    omega

/-- **An append that does not fit** leaves no zero in the buffer. -/
lemma appendMem_overflow {m : Memory UInt8} {a : ℕ} {c : List UInt8} {ds : List (List UInt8)}
    (hpath : HoldsPath m a cs) (hc : IsComponent c)
    (hover : CWD_SIZE < (pathString cs).length + c.length + 2) :
    ¬HoldsPath (appendMem m a cs c) a ds := by
  intro hds
  have hne : ∀ b ∈ pathString (cs ++ [c]), b ≠ 0 := by
    refine pathString_ne_zero fun d hd => ?_
    rcases List.mem_append.1 hd with hd | hd
    · exact hpath.components d hd
    · rw [List.mem_singleton.1 hd]
      exact hc
  have hfits := hds.fits
  rw [← (appendMem_text hpath).eq_path hne hds] at hfits
  simp only [pathString_concat, List.length_append, List.length_singleton] at hfits
  omega

/-- What one process writes into its buffer, no other process sees. -/
lemma HoldsPath.of_usesWithin {m m' : Memory UInt8} {a b : ℕ} (h : HoldsPath m b cs)
    (huses : UsesWithin m m' a (a + CWD_SIZE)) (hapart : a + CWD_SIZE ≤ b ∨ b + CWD_SIZE ≤ a) :
    HoldsPath m' b cs := by
  have hfits := h.fits
  refine ⟨h.components, hfits, ?_⟩
  rw [huses.slice (by push_cast; omega), h.text]

/-- The state after a call on a process, with new memory. -/
structure Rewritten (s s' : CwdState) (p : CwdProcess) : Prop where
  initialized : s'.initialized = s.initialized
  processes : s'.processList = s.processList
  uses : UsesWithin s.mem s'.mem p.cwdString (p.cwdString + CWD_SIZE)

lemma IsProcess.congr (hp : IsProcess s pid p) (hlist : s'.processList = s.processList) :
    IsProcess s' pid p :=
  ⟨hp.lo, hp.hi, by rw [hlist, hp.listed], hp.used, hp.magic⟩

/-- A call that leaves a path in the buffer of its process leaves all strings paths. -/
lemma CwdReady.rewritten (h : CwdReady s) (hp : IsProcess s pid p) (hs : Rewritten s s' p)
    (hpath : HoldsPath s'.mem p.cwdString cs) : CwdReady s' where
  initialized := hs.initialized.trans h.initialized
  apart := by
    rw [hs.processes]
    exact h.apart
  addressed := by
    rw [hs.processes]
    exact h.addressed
  paths pid' q hq := by
    have hq' : IsProcess s pid' q := hq.congr hs.processes.symm
    by_cases hsame : pid' = pid
    · subst hsame
      rw [hq'.unique hp]
      exact ⟨cs, hpath⟩
    · obtain ⟨ds, hds⟩ := h.paths pid' q hq'
      have hlo := hp.lo
      have hlo' := hq'.lo
      exact ⟨ds, hds.of_usesWithin hs.uses (h.apart _ _ _ _ (by omega) hp.listed hq'.listed)⟩

/-- A call that appends has a process to append to. -/
lemma exists_process_of_append (h : CwdReady s) (hcomponent : IsComponent string.text)
    (hs : fsUpdateWorkingDirectoryString pid (some string) s = .ok s') :
    ∃ p, IsProcess s pid p := by
  rw [fsUpdateWorkingDirectoryString, if_neg (not_not.2 h.initialized),
    if_neg hcomponent.head] at hs
  split_ifs at hs with hrange
  cases hp : s.processList pid.toNat with
  | none => simp [hp] at hs
  | some p =>
      simp only [hp] at hs
      split_ifs at hs with hvalid
      rw [not_or, not_not, not_not] at hvalid
      rw [not_or, not_lt, not_le] at hrange
      exact ⟨p, hrange.1, hrange.2, hp, hvalid.1, hvalid.2⟩

lemma append_iff (h : CwdReady s) (hcomponent : IsComponent string.text)
    (hs : cwdStep s (.append pid string hcomponent) = .ok s') :
    (PathContract s (.append pid string hcomponent) s' ↔
        PathCondition s (.append pid string hcomponent)) ∧
      (PathCondition s (.append pid string hcomponent) → CwdReady s') := by
  obtain ⟨p, hp⟩ := exists_process_of_append h hcomponent hs
  have hlen : string.text.length = string.strlen := by simp [CString.text]
  -- what holds where the component fits
  have hfit : ∀ q cs, IsProcess s pid q → HoldsPath s.mem q.cwdString cs →
      (pathString cs).length + string.strlen + 2 ≤ CWD_SIZE →
      CwdReady s' ∧ UsesWithin s.mem s'.mem q.cwdString (q.cwdString + CWD_SIZE) ∧
        HoldsPath s'.mem q.cwdString (cs ++ [string.text]) := by
    intro q cs hq hpath hroom
    rw [← hlen] at hroom
    obtain ⟨hpath', huses⟩ := appendMem_fits hpath hcomponent hroom
    obtain rfl := fsUpdate_eq h hq hpath hcomponent hs
    exact ⟨h.rewritten hq ⟨rfl, rfl, huses⟩ hpath', huses, hpath'⟩
  have hkeep : PathCondition s (.append pid string hcomponent) → CwdReady s' := by
    intro hcond
    obtain ⟨cs, hpath⟩ := h.paths pid p hp
    exact (hfit p cs hp hpath (hcond p cs hp hpath)).1
  refine ⟨⟨?_, fun hcond => ⟨(hkeep hcond).paths, ?_⟩⟩, hkeep⟩
  · rintro ⟨hall, -⟩ q cs hq hpath
    by_contra hover
    obtain rfl := fsUpdate_eq h hq hpath hcomponent hs
    obtain ⟨ds, hds⟩ := hall pid q (hq.congr rfl)
    exact appendMem_overflow hpath hcomponent (by omega) hds
  · intro q cs hq hpath
    obtain ⟨hready, huses, hpath'⟩ := hfit q cs hq hpath (hcond q cs hq hpath)
    obtain rfl := fsUpdate_eq h hq hpath hcomponent hs
    obtain ⟨mem, hback, hrestored, -⟩ :=
      fsPathnameBackup_last hready (hq.congr rfl) hpath' one_pos
    exact ⟨huses, hpath', _, hback, hrestored⟩

/-- What is left when the last component is gone, or the only one. -/
lemma backup_take {k : ℕ} (hne : cs ≠ []) (hk : k = 1 ∨ (cs.length = 1 ∧ 1 ≤ k)) :
    cs.take (cs.length - k) = cs.dropLast := by
  have hpos := List.length_pos_of_ne_nil hne
  rw [List.dropLast_eq_take]
  congr 1
  omega

lemma backup_iff_of_pos (h : CwdReady s) (hp : IsProcess s pid p) (hn : 0 < n)
    (hs : cwdStep s (.backup pid n) = .ok s') :
    (PathContract s (.backup pid n) s' ↔ PathCondition s (.backup pid n)) ∧
      (PathCondition s (.backup pid n) → CwdReady s') := by
  obtain ⟨cs, hpath⟩ := h.paths pid p hp
  cases cs using List.reverseRecOn with
  | nil =>
      -- at the root
      have hno : ¬PathCondition s (.backup pid n) := by
        rintro (hle | hall)
        · omega
        · exact (hall p [] hp hpath).1 rfl
      refine ⟨iff_of_false ?_ hno, fun hcond => absurd hcond hno⟩
      rintro ⟨-, hcontract⟩
      obtain ⟨k, hk⟩ : ∃ k, n.toNat = k + 1 := ⟨n.toNat - 1, by omega⟩
      have hcall : fsPathnameBackup pid n s = .ok s' := hs
      rw [fsPathnameBackup_eq h hp hpath hn, hk] at hcall
      obtain ⟨mem, hrounds, hcall⟩ := bind_eq_ok hcall
      obtain rfl := Except.ok.inj hcall
      exact backupRounds_root hpath hrounds (hcontract p [] hp hpath).1
  | append_singleton ds c =>
      obtain ⟨mem, hback, hpath', huses⟩ := fsPathnameBackup_last h hp hpath hn
      obtain rfl : s.backedUp p mem = s' := Except.ok.inj (hback.symm.trans hs)
      have hrewritten : Rewritten s (s.backedUp p mem) p := ⟨rfl, rfl, huses⟩
      have hready := h.rewritten hp hrewritten hpath'
      have hlength : ∀ q es, IsProcess s pid q → HoldsPath s.mem q.cwdString es →
          es.length = ds.length + 1 := by
        intro q es hq hes
        rw [hq.unique hp] at hes
        rw [hes.length_eq hpath, List.length_append, List.length_singleton]
      refine ⟨⟨?_, ?_⟩, fun _ => hready⟩
      · rintro ⟨-, hcontract⟩
        obtain ⟨-, htake⟩ := hcontract p _ hp hpath
        have hlen := htake.length_eq hpath'
        rw [List.length_take, List.length_append, List.length_singleton] at hlen
        refine Or.inr fun q es hq hes => ?_
        have hes' := hlength q es hq hes
        refine ⟨fun hnil => by simp [hnil] at hes', ?_⟩
        omega
      · rintro (hle | hcond)
        · omega
        · refine ⟨hready.paths, fun q es hq hes => ?_⟩
          obtain ⟨hne, hone⟩ := hcond q es hq hes
          refine ⟨hq.unique hp ▸ huses, ?_⟩
          rw [backup_take hne (by omega)]
          cases es using List.reverseRecOn with
          | nil => exact absurd rfl hne
          | append_singleton es d =>
              obtain ⟨mem', hback', hes', -⟩ := fsPathnameBackup_last h hq hes hn
              rw [List.dropLast_concat]
              rw [hback] at hback'
              have hmem : mem = mem' := congrArg CwdState.mem (Except.ok.inj hback')
              exact hmem ▸ hes'

/-- A call of `fs_pathname_backup` that goes through did nothing or had a process. -/
lemma exists_process_of_backup (h : CwdReady s) (hs : fsPathnameBackup pid n s = .ok s') :
    (s' = s ∧ (n ≤ 0 ∨ ∀ p, ¬IsProcess s pid p)) ∨ (0 < n ∧ ∃ p, IsProcess s pid p) := by
  rw [fsPathnameBackup, if_neg (not_not.2 h.initialized)] at hs
  split_ifs at hs with hrange hn
  · exact Or.inl ⟨(Except.ok.inj hs).symm, Or.inr fun p hp => hp.range hrange⟩
  · exact Or.inl ⟨(Except.ok.inj hs).symm, Or.inl hn⟩
  · cases hp : s.processList pid.toNat with
    | none => simp [hp] at hs
    | some p =>
        rw [hp] at hs
        dsimp only at hs
        have hvalid : ¬(p.used ≠ TRUE ∨ p.magic ≠ 1234) := by
          intro hbad
          rw [if_pos hbad] at hs
          cases hs
        rw [not_or, not_not, not_not] at hvalid
        rw [not_or, not_lt, not_le] at hrange
        exact Or.inr ⟨not_le.1 hn, p, hrange.1, hrange.2, hp, hvalid.1, hvalid.2⟩

lemma backup_iff (h : CwdReady s) (hs : cwdStep s (.backup pid n) = .ok s') :
    (PathContract s (.backup pid n) s' ↔ PathCondition s (.backup pid n)) ∧
      (PathCondition s (.backup pid n) → CwdReady s') := by
  obtain ⟨rfl, hidle⟩ | ⟨hn, p, hp⟩ := exists_process_of_backup h hs
  · have hcond : PathCondition s' (.backup pid n) :=
      hidle.imp_right fun hnone p _ hp => absurd hp (hnone p)
    refine ⟨iff_of_true ⟨h.paths, fun p cs hp hpath => ⟨UsesWithin.refl _, ?_⟩⟩ hcond, fun _ => h⟩
    obtain hle | hnone := hidle
    · rw [Int.toNat_of_nonpos hle, Nat.sub_zero, List.take_length]
      exact hpath
    · exact absurd hp (hnone p)
  · exact backup_iff_of_pos h hp hn hs

end Calls

lemma CwdReady.step_iff {s s' : CwdState} {c : CwdCall} (h : CwdReady s) (hs : cwdStep s c = .ok s') :
    (PathContract s c s' ↔ PathCondition s c) ∧ (PathCondition s c → CwdReady s') := by
  cases c with
  | append currentProcess string component => exact append_iff h component hs
  | backup pid n => exact backup_iff h hs

/-- A system of one process, with the path of the components in a memory of zeros. -/
def cwdOf (cs : List (List UInt8)) : CwdState where
  mem := Memory.store ⟨fun _ => 0, []⟩ 0x1000 (pathString cs ++ [0])
  initialized := TRUE
  path := []
  targetName := []
  processList i := if i = 0 then some ⟨TRUE, 1234, 0x1000⟩ else none

lemma cwdOf_listed {cs : List (List UInt8)} {i : ℕ} {p : CwdProcess}
    (hp : (cwdOf cs).processList i = some p) : i = 0 ∧ p.cwdString = 0x1000 := by
  simp only [cwdOf] at hp
  split_ifs at hp with hi
  exact ⟨hi, by rw [← Option.some.inj hp]⟩

lemma cwdOf_holds {cs : List (List UInt8)} (hcs : ∀ c ∈ cs, IsComponent c)
    (hfits : (pathString cs).length < CWD_SIZE) : HoldsPath (cwdOf cs).mem 0x1000 cs :=
  ⟨hcs, hfits, slice_store_same (by simp)⟩

lemma cwdOf_ready {cs : List (List UInt8)} (hcs : ∀ c ∈ cs, IsComponent c)
    (hfits : (pathString cs).length < CWD_SIZE) : CwdReady (cwdOf cs) := by
  refine ⟨rfl, fun i j p q hne hp hq => ?_, fun i p hp => ?_, fun pid p hp => ⟨cs, ?_⟩⟩
  · exact absurd ((cwdOf_listed hp).1.trans (cwdOf_listed hq).1.symm) hne
  · rw [(cwdOf_listed hp).2]
    decide
  · rw [(cwdOf_listed hp.listed).2]
    exact cwdOf_holds hcs hfits

/-- `/a/b/`. -/
def abPath : List (List UInt8) := [[0x61], [0x62]]

lemma abPath_components : ∀ c ∈ abPath, IsComponent c := by
  simp [abPath, IsComponent, SLASH]

end Gramado

import Gramado.Fs.FatName
import Gramado.Fs.Volume
import Gramado.Fs.WorkingDirectory
import Gramado.Lib.EventLog
import Gramado.Lib.Overlay

/-!
# Loading a file by its path

`fs_load_path` of `kres/fs/fsload.c` counts the levels of a path (`fs_count_path_levels`), loads the
directory of every level but the last into a buffer of `fs_buffers`, and the file of the last level to
the address that it is given.

The walk looks at no more than twelve characters of a level.  A slash among them ends the name of a
directory, a dot the base of the name of the file; a zero ends nothing.  So a file without a dot is not
loaded, and the characters behind the end of the path are read; and a directory of twelve characters
is passed over.

* `walkLevel_folder`, `walkLevel_file` — what a level with a name that fits does.
* `walkLevel_folder_cases` — what any level with a slash behind it does.
-/

namespace Gramado

open EventLog EventM Overlay

/-- `FS_N_BUFFERS`. -/
def FS_N_BUFFERS : ℕ := 5

/-- `'.'`. -/
def DOT : UInt8 := 0x2E

/-- The arguments of a call of `fsLoadFile`; the name is the twelve bytes of `name_buffer`. -/
structure PathLoad where
  fatAddress : ℕ
  dirAddress : ℕ
  dirEntries : ℕ
  name : List UInt8
  fileAddress : ℕ
  bufferLimit : ℕ
deriving DecidableEq

/-- `fs_buffers`, and what `fsLoadFile` returns, given the calls before. -/
structure PathEnv where
  fsBuffers : ℕ → ℕ
  fsLoadFile : List PathLoad → PathLoad → ℤ

/-- The state is the list of the calls of `fsLoadFile` so far, the events are the offsets in the path that
are read.  An offset that is read again at once is recorded once. -/
abbrev PathM := EventM String (List PathLoad) ℕ

/-! ## The functions -/

/-- `*p`. -/
def pathChar (s : CString) (p : ℕ) : PathM UInt8 := do
  emit p
  pure (s.bytes p)

/-- The loop of `fs_count_path_levels`. -/
def countLevels (s : CString) : ℕ → ℕ → ℕ → PathM ℕ
  | 0, _, counter => pure counter
  | left + 1, i, counter => do
      let c ← pathChar s i
      let counter := if c = SLASH then counter + 1 else counter
      if c = 0 then pure counter else countLevels s left (i + 1) counter

/-- `MaxChars` of `fs_count_path_levels`. -/
def MAX_PATH_CHARS : ℕ := 2000

/-- `fs_count_path_levels`. -/
def fsCountPathLevels (s : CString) : PathM ℕ := do
  let c ← pathChar s 0
  if c = 0 then pure 0 else countLevels s MAX_PATH_CHARS 0 0

/-- `while (i < n) name_buffer[i] = ' '`. -/
def padSpaces (name : ℕ → UInt8) (i n : ℕ) : ℕ → UInt8 := overlay name i (List.replicate (n - i) 0x20)

/-- The loop over the extension: `ExtCounter`, `i` and the buffer. -/
def copyExtension (s : CString) : ℕ → ℕ → ℕ → ℕ → (ℕ → UInt8) → PathM (ℕ × ℕ × (ℕ → UInt8))
  | 0, _, i, ext, name => pure (ext, i, name)
  | left + 1, p, i, ext, name => do
      let c ← pathChar s p
      if c = 0 then pure (ext, i, name)
      else copyExtension s left (p + 1) (i + 1) (ext + 1) (Function.update name i c)

/-- `fsLoadFile`, with the name in the buffer. -/
def loadByName (v : PathEnv) (src : ℕ) (name : ℕ → UInt8) (dst limit : ℕ) : PathM ℤ := do
  let load : PathLoad :=
    { fatAddress := VOLUME1_FAT_ADDRESS, dirAddress := src, dirEntries := FAT16_ROOT_ENTRIES,
      name := (List.range 12).map name, fileAddress := dst, bufferLimit := limit }
  let calls ← get
  modify fun calls => calls ++ [load]
  pure (v.fsLoadFile calls load)

/-- The pointer `p` and the directory `__src_buffer`, and what is in `name_buffer`. -/
structure PathWalk where
  p : ℕ
  src : ℕ
  name : ℕ → UInt8

/-- A dot at the character `i` of level `l`: the file is loaded. -/
def loadLastLevel (v : PathEnv) (s : CString) (address limit l n i : ℕ) (w : PathWalk) : PathM ℤ :=
  if l ≠ n - 1 then fault "fs_load_path: '.' found into a subdirectory\n"
  else if i = 0 then fault "fs_load_path: [fail] Filename starting with a dot.\n"
  else if i > 8 then fault "fs_load_path: Filename bigger than 8.\n"
  else do
    let name := padSpaces w.name i 8
    let (ext, i, name) ← copyExtension s 3 (w.p + 1) 8 0 name
    let (ext, name) := if ext < 3 then (ext + (11 - i), padSpaces name i 11) else (ext, name)
    if ext ≠ 3 then fault "fs_load_path: ExtCounter\n"
    else if address = 0 then fault "fs_load_path: __dst_buffer\n"
    else do
      let ret ← loadByName v w.src (Function.update name 11 0) address limit
      if ret = 0 then
        if l ≠ n - 1 then fault "It needs to be the last level.\n" else pure 0
      else fault "fs_load_path: [FAIL] Loading level 0\n"

/-- `DirBufferSizeInBytes`. -/
def DIR_BUFFER_SIZE : ℕ := 512 * 32

/-- A slash at the character `i` of level `l`: the directory is loaded. -/
def loadDirectoryLevel (v : PathEnv) (l i : ℕ) (w : PathWalk) : PathM PathWalk :=
  if i = 0 then fault "fs_load_path: Invalid folder name\n"
  else if i ≥ 8 + 3 then fault "fs_load_path: The folder name is too long\n"
  else if l ≥ FS_N_BUFFERS then fault "fs_load_path: l\n"
  else if v.fsBuffers l = 0 then fault "fs_load_path: __dst_buffer\n"
  else do
    let name := Function.update (padSpaces w.name i 11) 11 0
    let ret ← loadByName v w.src name (v.fsBuffers l) DIR_BUFFER_SIZE
    if ret = 0 then pure { w with src := v.fsBuffers l, name := name }
    else fault "fs_load_path: [FAIL] Loading level 0\n"

/-- The loop over the characters of level `l`, from character `i` on: the call returns, or the next level
comes. -/
def walkLevel (v : PathEnv) (s : CString) (address limit l n : ℕ) :
    ℕ → ℕ → PathWalk → PathM (ℤ ⊕ PathWalk)
  | 0, _, w => pure (.inr w)
  | left + 1, i, w => do
      let c ← pathChar s w.p
      let w := { w with name := Function.update w.name i c }
      if c = DOT then do
        let ret ← loadLastLevel v s address limit l n i w
        pure (.inl ret)
      else if c = SLASH then do
        let w ← loadDirectoryLevel v l i w
        pure (.inr w)
      else walkLevel v s address limit l n left (i + 1) { w with p := w.p + 1 }

/-- The loop over the levels, from level `l` on. -/
def walkLevels (v : PathEnv) (s : CString) (address limit n : ℕ) : ℕ → ℕ → PathWalk → PathM ℤ
  | 0, _, _ => pure (-1)
  | left + 1, l, w => do
      let c ← pathChar s w.p
      if c ≠ SLASH then fault "fs_load_path: All levels need to start with '/'\n"
      else do
        match ← walkLevel v s address limit l n 12 0 { w with p := w.p + 1 } with
        | .inl ret => pure ret
        | .inr w => walkLevels v s address limit n left (l + 1) w

/-- `fs_load_path`; `garbage` is what is in `name_buffer` at first. -/
def fsLoadPath (v : PathEnv) (path : Option CString) (address bufferSize : ℕ) (garbage : ℕ → UInt8) :
    PathM ℤ :=
  match path with
  | none => fault "fs_load_path: path\n"
  | some s => do
      let c ← pathChar s 0
      if c = 0 then fault "fs_load_path: *path\n"
      else if address = 0 then fault "fs_load_path: address\n"
      else if bufferSize = 0 then fault "fs_load_path: buffer_size\n"
      else do
        let n ← fsCountPathLevels s
        if n = 0 ∨ n ≥ FS_N_BUFFERS then fault "fs_load_path: n_levels\n"
        else do
          let c ← pathChar s 0
          if c ≠ SLASH then fault "fs_load_path: Not absolute pathname\n"
          else walkLevels v s address (bufferSize % 2 ^ 32) n n 0 ⟨0, VOLUME1_ROOTDIR_ADDRESS, garbage⟩

/-! ## Text in memory -/

/-- The text stands from the address `p` on. -/
def TextAt (b : ℕ → UInt8) : ℕ → List UInt8 → Prop
  | _, [] => True
  | p, c :: text => b p = c ∧ TextAt b (p + 1) text

lemma textAt_append {b : ℕ → UInt8} {text text' : List UInt8} : ∀ {p : ℕ},
    TextAt b p (text ++ text') ↔ TextAt b p text ∧ TextAt b (p + text.length) text' := by
  induction text with
  | nil =>
      intro p
      simp [TextAt]
  | cons c text ih =>
      intro p
      simp only [List.cons_append, TextAt, ih, List.length_cons, and_assoc, Nat.add_assoc,
        Nat.add_comm 1]

lemma TextAt.head {b : ℕ → UInt8} {p : ℕ} {c : UInt8} {text : List UInt8} (h : TextAt b p (c :: text)) :
    b p = c := h.1

/-- A character of the text. -/
lemma TextAt.getElem {b : ℕ → UInt8} : ∀ {text : List UInt8} {p k : ℕ}, TextAt b p text →
    (hk : k < text.length) → b (p + k) = text[k] := by
  intro text
  induction text with
  | nil =>
      intro p k _ hk
      cases hk
  | cons c text ih =>
      intro p k h hk
      cases k with
      | zero => exact h.1
      | succ k =>
          have hplace : p + (k + 1) = p + 1 + k := by omega
          rw [hplace]
          exact ih h.2 (Nat.lt_of_succ_lt_succ hk)

/-- The string is the text, with a zero behind it. -/
def CString.Holds (s : CString) (text : List UInt8) : Prop := TextAt s.bytes 0 (text ++ [0])

/-- A list that is laid over the front of a buffer is read back. -/
lemma range_map_overlay (name : ℕ → UInt8) {l : List UInt8} {n : ℕ} (hn : l.length = n) :
    (List.range n).map (overlay name 0 l) = l := by
  refine List.ext_getElem (by simp [hn]) fun k hk hk' => ?_
  have hcell : overlay name 0 l (0 + k) = l[k] := overlay_inside hk'
  rw [Nat.zero_add] at hcell
  simpa using hcell

/-- A character in front of the rest of a list. -/
lemma overlay_update {name : ℕ → UInt8} {i : ℕ} {c : UInt8} {l : List UInt8} :
    overlay (Function.update name i c) (i + 1) l = overlay name i (c :: l) := by
  rw [update_eq]
  exact (overlay_append (l := [c])).symm

/-! ## Names -/

/-- A character of a name in a path: it is no zero, no slash and no dot. -/
def PathNameChar (c : UInt8) : Prop := c ≠ 0 ∧ c ≠ SLASH ∧ c ≠ DOT

instance (c : UInt8) : Decidable (PathNameChar c) := inferInstanceAs (Decidable (_ ∧ _ ∧ _))

/-- **A name that the walk takes for a directory**: up to ten characters. -/
structure FolderName where
  chars : List UInt8
  chars_pos : chars ≠ []
  chars_le : chars.length ≤ 10
  chars_valid : ∀ c ∈ chars, PathNameChar c

/-- A name, with spaces behind it up to eleven characters. -/
def FolderName.padded (d : FolderName) : List UInt8 :=
  d.chars ++ List.replicate (11 - d.chars.length) 0x20

/-- The base with spaces behind it up to eight characters, and the extension up to three. -/
def ShortName.padded {P : UInt8 → Prop} (f : ShortName P) : List UInt8 :=
  f.base ++ List.replicate (8 - f.base.length) 0x20 ++ (f.ext ++ List.replicate (3 - f.ext.length) 0x20)

/-- The call for the directory of level `l`. -/
def directoryLoad (v : PathEnv) (src l : ℕ) (chars : List UInt8) : PathLoad :=
  { fatAddress := VOLUME1_FAT_ADDRESS, dirAddress := src, dirEntries := FAT16_ROOT_ENTRIES,
    name := chars ++ List.replicate (11 - chars.length) 0x20 ++ [0],
    fileAddress := v.fsBuffers l, bufferLimit := DIR_BUFFER_SIZE }

/-- The call for the file. -/
def fileLoad {P : UInt8 → Prop} (src address limit : ℕ) (f : ShortName P) : PathLoad :=
  { fatAddress := VOLUME1_FAT_ADDRESS, dirAddress := src, dirEntries := FAT16_ROOT_ENTRIES,
    name := f.padded ++ [0], fileAddress := address, bufferLimit := limit }

/-- A load that returns 0 lets the walk go on, any other ends it. -/
def loadResult {α : Type} (v : PathEnv) (calls : List PathLoad) (load : PathLoad) (a : α) :
    Except String α :=
  if v.fsLoadFile calls load = 0 then .ok a else .error "fs_load_path: [FAIL] Loading level 0\n"

/-! ## One level -/

section Level

variable {v : PathEnv} {s : CString} {address limit l n len left i p src : ℕ} {name : ℕ → UInt8}
  {chars text : List UInt8} {calls calls' : List PathLoad}

lemma yields_pathChar (hp : p ≤ len) :
    Yields (· ≤ len) (pathChar s p) calls (.ok (s.bytes p)) calls :=
  ⟨rfl, rfl, fun _ hread => (List.mem_singleton.1 hread).trans_le hp⟩

lemma yields_loadByName (dst : ℕ) {list : List UInt8} (hlength : list.length = 12) :
    Yields (· ≤ len) (loadByName v src (overlay name 0 list) dst limit) calls
      (.ok (v.fsLoadFile calls
        ⟨VOLUME1_FAT_ADDRESS, src, FAT16_ROOT_ENTRIES, list, dst, limit⟩))
      (calls ++ [⟨VOLUME1_FAT_ADDRESS, src, FAT16_ROOT_ENTRIES, list, dst, limit⟩]) := by
  have hname := range_map_overlay name hlength
  constructor
  · show Except.ok _ = _
    rw [hname]
  · show calls ++ _ = _
    rw [hname]
  · exact nofun

/-- The characters of a name are copied one by one. -/
lemma walkLevel_chars {r : Except String (ℤ ⊕ PathWalk)} : ∀ {chars : List UInt8} {i p : ℕ} {name : ℕ → UInt8},
    TextAt s.bytes p chars → (∀ c ∈ chars, c ≠ DOT ∧ c ≠ SLASH) → p + chars.length ≤ len →
      Yields (· ≤ len) (walkLevel v s address limit l n left (i + chars.length)
        ⟨p + chars.length, src, overlay name i chars⟩) calls r calls' →
      Yields (· ≤ len) (walkLevel v s address limit l n (chars.length + left) i ⟨p, src, name⟩) calls r
        calls' := by
  intro chars
  induction chars with
  | nil =>
      intro i p name _ _ _ hrest
      simpa using hrest
  | cons c chars ih =>
      intro i p name htext hplain hlen hrest
      obtain ⟨hc, htext⟩ := htext
      have hlength : (c :: chars).length + left = chars.length + left + 1 := by
        rw [List.length_cons]
        omega
      rw [List.length_cons] at hlen
      have hp : p ≤ len := by omega
      have hrestLen : p + 1 + chars.length ≤ len := by omega
      rw [hlength, walkLevel]
      refine (yields_pathChar hp).bind ?_
      obtain ⟨hdot, hslash⟩ := hplain c List.mem_cons_self
      rw [hc, if_neg hdot, if_neg hslash]
      refine ih htext (fun c hc => hplain c (List.mem_cons_of_mem _ hc)) hrestLen ?_
      rw [overlay_update]
      simpa only [List.length_cons, Nat.add_assoc, Nat.add_comm 1] using hrest

/-- The buffer when a slash ends a name. -/
lemma padded_folder (hlength : chars.length ≤ 10) :
    Function.update (padSpaces (Function.update (overlay name 0 chars) chars.length SLASH) chars.length 11)
      11 0 = overlay name 0 (chars ++ List.replicate (11 - chars.length) 0x20 ++ [0]) := by
  have hpadded : (chars ++ List.replicate (11 - chars.length) (0x20 : UInt8)).length = 11 := by
    rw [List.length_append, List.length_replicate]
    omega
  have hslash : padSpaces (Function.update (overlay name 0 chars) chars.length SLASH) chars.length 11 =
      overlay name 0 (chars ++ List.replicate (11 - chars.length) 0x20) := by
    rw [padSpaces, update_eq, overlay_overlay, overlay_append, Nat.zero_add]
    rw [List.length_singleton, List.length_replicate]
    omega
  rw [hslash, ← update_end, hpadded]

/-- The loop over the extension stops at the end of the path, or when three characters are copied. -/
lemma copyExtension_spec : ∀ {chars : List UInt8} {left p i ext : ℕ} {name : ℕ → UInt8},
    TextAt s.bytes p chars → 0 ∉ chars → chars.length ≤ left →
      (chars.length < left → s.bytes (p + chars.length) = 0) → p + chars.length ≤ len →
        Yields (· ≤ len) (copyExtension s left p i ext name) calls
          (.ok (ext + chars.length, i + chars.length, overlay name i chars)) calls := by
  intro chars
  induction chars with
  | nil =>
      intro left p i ext name _ _ _ hend hlen
      cases left with
      | zero =>
          rw [overlay_nil]
          exact .pure ..
      | succ left =>
          rw [copyExtension, overlay_nil]
          refine (yields_pathChar hlen).bind ?_
          rw [if_pos (hend (Nat.succ_pos left))]
          exact .pure ..
  | cons c chars ih =>
      intro left p i ext name htext hnul hleft hend hlen
      obtain ⟨hc, htext⟩ := htext
      rw [List.length_cons] at hleft hend hlen
      cases left with
      | zero => omega
      | succ left =>
          have hp : p ≤ len := by omega
          have hne : c ≠ 0 := fun h => hnul (h ▸ List.mem_cons_self)
          have hplace : p + 1 + chars.length = p + (chars.length + 1) := by omega
          rw [copyExtension]
          refine (yields_pathChar hp).bind ?_
          rw [hc, if_neg hne]
          have hrest : Yields (· ≤ len)
              (copyExtension s left (p + 1) (i + 1) (ext + 1) (Function.update name i c)) calls
              (.ok (ext + 1 + chars.length, i + 1 + chars.length,
                overlay (Function.update name i c) (i + 1) chars)) calls := by
            refine ih htext (fun h => hnul (List.mem_cons_of_mem _ h)) (by omega) (fun h => ?_) (by omega)
            rw [hplace]
            exact hend (by omega)
          rw [overlay_update] at hrest
          simpa only [List.length_cons, Nat.add_assoc, Nat.add_comm 1] using hrest

/-- The buffer when a dot ends the base, with three characters behind the eight of the base. -/
lemma padded_file {base ext : List UInt8} (hbase : base.length ≤ 8) (hext : ext.length = 3) :
    Function.update
      (overlay (padSpaces (Function.update (overlay name 0 base) base.length DOT) base.length 8) 8 ext) 11 0 =
      overlay name 0 (base ++ List.replicate (8 - base.length) 0x20 ++ ext ++ [0]) := by
  have hpadded : (base ++ List.replicate (8 - base.length) (0x20 : UInt8)).length = 8 := by
    rw [List.length_append, List.length_replicate]
    omega
  have hlength : (base ++ List.replicate (8 - base.length) (0x20 : UInt8) ++ ext).length = 11 := by
    rw [List.length_append, hpadded, hext]
  have hdot :
      overlay (padSpaces (Function.update (overlay name 0 base) base.length DOT) base.length 8) 8 ext =
        overlay name 0 (base ++ List.replicate (8 - base.length) 0x20 ++ ext) := by
    rcases Nat.lt_or_eq_of_le hbase with hlt | heq
    · rw [padSpaces, update_eq, overlay_overlay, overlay_append, overlay_append, hpadded]
      · simp only [Nat.zero_add]
      · rw [List.length_singleton, List.length_replicate]
        omega
    · -- the dot itself is overwritten by the extension
      rw [padSpaces, heq, Nat.sub_self, List.replicate_zero, overlay_nil, update_eq, overlay_overlay,
        List.append_nil, overlay_append, heq, Nat.zero_add]
      rw [List.length_singleton, hext]
      omega
  rw [hdot, ← update_end, hlength]

/-- Spaces behind an extension of fewer than three characters. -/
lemma padded_extension {ext : List UInt8} (hle : ext.length ≤ 3) :
    (if 0 + ext.length < 3 then
        (0 + ext.length + (11 - (8 + ext.length)), padSpaces (overlay name 8 ext) (8 + ext.length) 11)
      else (0 + ext.length, overlay name 8 ext)) =
      (3, overlay name 8 (ext ++ List.replicate (3 - ext.length) 0x20)) := by
  by_cases hlt : 0 + ext.length < 3
  · have hspaces : 11 - (8 + ext.length) = 3 - ext.length := by omega
    rw [if_pos hlt, padSpaces, hspaces, overlay_append]
    congr 1
    omega
  · have hfull : ext.length = 3 := by omega
    rw [if_neg hlt, hfull, Nat.sub_self, List.replicate_zero, List.append_nil]

/-- A slash behind fewer than twelve plain characters. -/
lemma walkLevel_slash {r : Except String PathWalk} {rest : List UInt8}
    (hplain : ∀ c ∈ chars, c ≠ DOT ∧ c ≠ SLASH) (htext : TextAt s.bytes p (chars ++ SLASH :: rest))
    (hlength : chars.length < 12) (hlen : p + chars.length ≤ len)
    (hload : Yields (· ≤ len) (loadDirectoryLevel v l chars.length
      ⟨p + chars.length, src, Function.update (overlay name 0 chars) chars.length SLASH⟩) calls r calls') :
    Yields (· ≤ len) (walkLevel v s address limit l n 12 0 ⟨p, src, name⟩) calls (r.map .inr) calls' := by
  have hcount : 12 = chars.length + (11 - chars.length + 1) := by omega
  obtain ⟨hchars, hslash, -⟩ := textAt_append.1 htext
  rw [hcount]
  refine walkLevel_chars hchars hplain hlen ?_
  rw [walkLevel]
  refine (yields_pathChar hlen).bind ?_
  rw [hslash, if_neg (by decide), if_pos rfl, Nat.zero_add]
  cases r with
  | ok w => exact hload.bind (.pure ..)
  | error e => exact hload.bind_error

/-- A dot behind fewer than twelve plain characters. -/
lemma walkLevel_dot {r : Except String ℤ} {rest : List UInt8}
    (hplain : ∀ c ∈ chars, c ≠ DOT ∧ c ≠ SLASH) (htext : TextAt s.bytes p (chars ++ DOT :: rest))
    (hlength : chars.length < 12) (hlen : p + chars.length ≤ len)
    (hload : Yields (· ≤ len) (loadLastLevel v s address limit l n chars.length
      ⟨p + chars.length, src, Function.update (overlay name 0 chars) chars.length DOT⟩) calls r calls') :
    Yields (· ≤ len) (walkLevel v s address limit l n 12 0 ⟨p, src, name⟩) calls (r.map .inl) calls' := by
  have hcount : 12 = chars.length + (11 - chars.length + 1) := by omega
  obtain ⟨hchars, hdot, -⟩ := textAt_append.1 htext
  rw [hcount]
  refine walkLevel_chars hchars hplain hlen ?_
  rw [walkLevel]
  refine (yields_pathChar hlen).bind ?_
  rw [hdot, if_pos rfl, Nat.zero_add]
  cases r with
  | ok ret => exact hload.bind (.pure ..)
  | error e => exact hload.bind_error

/-- Twelve plain characters: the level ends behind them. -/
lemma walkLevel_full (hplain : ∀ c ∈ chars, c ≠ DOT ∧ c ≠ SLASH) (htext : TextAt s.bytes p chars)
    (hlength : chars.length = 12) (hlen : p + 12 ≤ len) :
    Yields (· ≤ len) (walkLevel v s address limit l n 12 0 ⟨p, src, name⟩) calls
      (.ok (.inr ⟨p + 12, src, overlay name 0 chars⟩)) calls := by
  have hwalk : Yields (· ≤ len) (walkLevel v s address limit l n (chars.length + 0) 0 ⟨p, src, name⟩)
      calls (.ok (.inr ⟨p + chars.length, src, overlay name 0 chars⟩)) calls :=
    walkLevel_chars htext hplain (hlength ▸ hlen) (.pure ..)
  rwa [hlength] at hwalk

/-! ### Names that fit -/

/-- A slash behind a name that fits: its directory is loaded. -/
lemma loadDirectoryLevel_folder (hbuffer : v.fsBuffers l ≠ 0) (hl : l < FS_N_BUFFERS) (hpos : chars ≠ [])
    (hle : chars.length ≤ 10) :
    Yields (· ≤ len) (loadDirectoryLevel v l chars.length
        ⟨p, src, Function.update (overlay name 0 chars) chars.length SLASH⟩) calls
      (loadResult v calls (directoryLoad v src l chars)
        ⟨p, v.fsBuffers l, overlay name 0 (directoryLoad v src l chars).name⟩)
      (calls ++ [directoryLoad v src l chars]) := by
  have hfirst : chars.length ≠ 0 := mt List.length_eq_zero_iff.1 hpos
  have hlength : (directoryLoad v src l chars).name.length = 12 := by
    simp only [directoryLoad, List.length_append, List.length_replicate, List.length_singleton]
    omega
  have hload : Yields (· ≤ len) (loadByName v src (overlay name 0 (directoryLoad v src l chars).name)
      (v.fsBuffers l) DIR_BUFFER_SIZE) calls (.ok (v.fsLoadFile calls (directoryLoad v src l chars)))
      (calls ++ [directoryLoad v src l chars]) := yields_loadByName _ hlength
  rw [loadDirectoryLevel, if_neg hfirst, if_neg (by omega), if_neg (by omega), if_neg hbuffer, loadResult]
  simp only [padded_folder hle]
  refine hload.bind ?_
  by_cases hok : v.fsLoadFile calls (directoryLoad v src l chars) = 0
  · rw [if_pos hok, if_pos hok]
    exact .pure ..
  · rw [if_neg hok, if_neg hok]
    exact .fault ..

/-- A dot behind a base that fits: the file is loaded. -/
lemma loadLastLevel_file {P : UInt8 → Prop} (f : ShortName P) (haddress : address ≠ 0) (hl : l = n - 1)
    (hnul : 0 ∉ f.ext) (htext : TextAt s.bytes (p + 1) (f.ext ++ [0]))
    (hlen : p + 1 + f.ext.length ≤ len) :
    Yields (· ≤ len) (loadLastLevel v s address limit l n f.base.length
        ⟨p, src, Function.update (overlay name 0 f.base) f.base.length DOT⟩) calls
      (loadResult v calls (fileLoad src address limit f) 0)
      (calls ++ [fileLoad src address limit f]) := by
  have hfirst : f.base.length ≠ 0 := mt List.length_eq_zero_iff.1 f.base_pos
  have hbase := f.base_le
  have hpad : (f.ext ++ List.replicate (3 - f.ext.length) (0x20 : UInt8)).length = 3 := by
    rw [List.length_append, List.length_replicate]
    have := f.ext_le
    omega
  have hlength : (fileLoad src address limit f).name.length = 12 := by
    simp only [fileLoad, ShortName.padded, List.length_append, List.length_singleton,
      List.length_replicate] at hpad ⊢
    omega
  have hload : Yields (· ≤ len) (loadByName v src (overlay name 0 (fileLoad src address limit f).name)
      address limit) calls (.ok (v.fsLoadFile calls (fileLoad src address limit f)))
      (calls ++ [fileLoad src address limit f]) := yields_loadByName _ hlength
  obtain ⟨hext, hend, -⟩ := textAt_append.1 htext
  rw [loadLastLevel, if_neg (not_not.2 hl), if_neg hfirst, if_neg (by omega), loadResult]
  refine (copyExtension_spec hext hnul f.ext_le (fun _ => hend) hlen).bind ?_
  simp only [padded_extension f.ext_le, ne_eq, not_true_eq_false, if_false, haddress,
    padded_file hbase hpad]
  refine hload.bind ?_
  by_cases hok : v.fsLoadFile calls (fileLoad src address limit f) = 0
  · rw [if_pos hok, if_pos hok, if_neg (not_not.2 hl)]
    exact .pure ..
  · rw [if_neg hok, if_neg hok]
    exact .fault ..

/-! ### Any level -/

/-- A dot in a level that is not the last one, at its start, or behind more than eight characters. -/
lemma loadLastLevel_refused (h : l ≠ n - 1 ∨ i = 0 ∨ i > 8) (w : PathWalk) :
    ∃ e, Yields (· ≤ len) (loadLastLevel v s address limit l n i w) calls (.error e) calls := by
  rw [loadLastLevel]
  by_cases hl : l ≠ n - 1
  · rw [if_pos hl]
    exact ⟨_, .fault ..⟩
  rw [if_neg hl]
  by_cases hi : i = 0
  · rw [if_pos hi]
    exact ⟨_, .fault ..⟩
  rw [if_neg hi, if_pos (by tauto)]
  exact ⟨_, .fault ..⟩

/-- The name of a directory in a path is empty, has a dot, or eleven or more than twelve characters. -/
def FolderFlaw (chars : List UInt8) : Prop :=
  chars = [] ∨ DOT ∈ chars ∨ chars.length = 11 ∨ 12 < chars.length

/-- The name of a file in a path has a dot with nothing or more than eight characters before it, or no dot
among twelve characters. -/
def FileFlaw (chars : List UInt8) : Prop :=
  (∃ base rest, chars = base ++ DOT :: rest ∧ DOT ∉ base ∧ (base = [] ∨ 8 < base.length)) ∨
    12 ≤ chars.length ∧ DOT ∉ chars.take 12

/-- Where a level of a path with the name `chars` ends: in a panic, at the slash behind the name, or among its
characters. -/
def LevelEnds (p : ℕ) (chars : List UInt8) (r : Except String (ℤ ⊕ PathWalk)) : Prop :=
  (∃ e, r = .error e) ∨
    ∃ w, r = .ok (.inr w) ∧
      (w.p = p + chars.length ∧ ¬FolderFlaw chars ∨ w.p = p + 12 ∧ 12 < chars.length)

lemma plain_of_notMem (hdot : DOT ∉ chars) (hslash : SLASH ∉ chars) :
    ∀ c ∈ chars, c ≠ DOT ∧ c ≠ SLASH :=
  fun _ hc => ⟨fun h => hdot (h ▸ hc), fun h => hslash (h ▸ hc)⟩

/-- A name of no or of eleven characters, or of a level without a buffer. -/
lemma loadDirectoryLevel_refused (h : i = 0 ∨ i ≥ 11 ∨ l ≥ FS_N_BUFFERS ∨ v.fsBuffers l = 0) (w : PathWalk) :
    ∃ e, Yields (· ≤ len) (loadDirectoryLevel v l i w) calls (.error e) calls := by
  rw [loadDirectoryLevel]
  by_cases hfirst : i = 0
  · rw [if_pos hfirst]
    exact ⟨_, .fault ..⟩
  rw [if_neg hfirst]
  by_cases hlong : i ≥ 8 + 3
  · rw [if_pos hlong]
    exact ⟨_, .fault ..⟩
  rw [if_neg hlong]
  by_cases hl : l ≥ FS_N_BUFFERS
  · rw [if_pos hl]
    exact ⟨_, .fault ..⟩
  rw [if_neg hl, if_pos (by tauto)]
  exact ⟨_, .fault ..⟩

/-- **A level with a slash behind it.** -/
lemma walkLevel_cases {rest : List UInt8} (hl : l + 1 < n) (hslash : SLASH ∉ chars)
    (htext : TextAt s.bytes p (chars ++ SLASH :: rest)) (hlen : p + chars.length ≤ len) :
    ∃ r calls', Yields (· ≤ len) (walkLevel v s address limit l n 12 0 ⟨p, src, name⟩) calls r calls' ∧
      calls'.length ≤ calls.length + 1 ∧ (FolderFlaw chars → calls' = calls) ∧ LevelEnds p chars r := by
  by_cases hdot : DOT ∈ chars.take 12
  · -- the dot belongs to the last level
    obtain ⟨base, rest', htake, hbase⟩ := List.eq_append_cons_of_mem hdot
    have hlength : base.length < 12 := by
      have := congrArg List.length htake
      simp only [List.length_take, List.length_append, List.length_cons] at this
      omega
    have hchars : chars = base ++ DOT :: (rest' ++ chars.drop 12) := by
      conv_lhs => rw [← List.take_append_drop 12 chars, htake]
      simp
    have hbaseLen : p + base.length ≤ len := by
      have := congrArg List.length hchars
      simp only [List.length_append] at this
      omega
    have hplain := plain_of_notMem hbase fun h => hslash (hchars ▸ List.mem_append_left _ h)
    have hl' : l ≠ n - 1 := by omega
    obtain ⟨e, hrefused⟩ : ∃ e, Yields (· ≤ len) (loadLastLevel v s address limit l n base.length
        ⟨p + base.length, src, Function.update (overlay name 0 base) base.length DOT⟩) calls (.error e) calls :=
      loadLastLevel_refused (.inl hl') _
    rw [hchars, List.append_assoc] at htext
    exact ⟨_, calls, walkLevel_dot hplain htext hlength hbaseLen hrefused, Nat.le_succ _, fun _ => rfl,
      .inl ⟨e, rfl⟩⟩
  by_cases hlength : chars.length < 12
  · rw [List.take_of_length_le (by omega)] at hdot
    have hplain := plain_of_notMem hdot hslash
    by_cases hrefused : chars.length = 0 ∨ chars.length ≥ 11 ∨ l ≥ FS_N_BUFFERS ∨ v.fsBuffers l = 0
    · obtain ⟨e, hload⟩ := loadDirectoryLevel_refused hrefused _
      exact ⟨_, calls, walkLevel_slash hplain htext hlength hlen hload, Nat.le_succ _, fun _ => rfl,
        .inl ⟨e, rfl⟩⟩
    · simp only [not_or] at hrefused
      obtain ⟨hpos, hlong, hplace, hbuffer⟩ := hrefused
      have hne : chars ≠ [] := mt List.length_eq_zero_iff.2 hpos
      have hflaw : ¬FolderFlaw chars := by
        rintro (h | h | h | h)
        · exact hne h
        · exact hdot h
        · omega
        · omega
      have hload : Yields (· ≤ len) (loadDirectoryLevel v l chars.length
          ⟨p + chars.length, src, Function.update (overlay name 0 chars) chars.length SLASH⟩) calls _ _ :=
        loadDirectoryLevel_folder hbuffer (by omega) hne (by omega)
      refine ⟨_, _, walkLevel_slash hplain htext hlength hlen hload, ?_, fun h => absurd h hflaw, ?_⟩
      · simp
      · rw [loadResult]
        by_cases hok : v.fsLoadFile calls (directoryLoad v src l chars) = 0
        · rw [if_pos hok]
          exact .inr ⟨_, rfl, .inl ⟨rfl, hflaw⟩⟩
        · rw [if_neg hok]
          exact .inl ⟨_, rfl⟩
  · have htake : TextAt s.bytes p (chars.take 12) := by
      rw [← List.take_append_drop 12 chars, List.append_assoc] at htext
      exact (textAt_append.1 htext).1
    have hplain := plain_of_notMem hdot fun h => hslash (List.mem_of_mem_take h)
    refine ⟨_, calls, walkLevel_full hplain htake (by simp; omega) (by omega), Nat.le_succ _, fun _ => rfl,
      .inr ⟨_, rfl, ?_⟩⟩
    rcases Nat.lt_or_eq_of_le (not_lt.1 hlength) with hlong | heq
    · exact .inr ⟨rfl, hlong⟩
    · rw [List.take_of_length_le (by omega)] at hdot
      refine .inl ⟨by rw [← heq], ?_⟩
      rintro (h | h | h | h)
      · rw [h] at heq
        cases heq
      · exact hdot h
      · omega
      · omega

/-- **The last level with a name that does not fit.** -/
lemma walkLevel_fileFlaw {rest : List UInt8} (hflaw : FileFlaw chars) (hslash : SLASH ∉ chars)
    (htext : TextAt s.bytes p (chars ++ rest)) (hlen : p + chars.length ≤ len) :
    ∃ r, Yields (· ≤ len) (walkLevel v s address limit l n 12 0 ⟨p, src, name⟩) calls r calls ∧
      ((∃ e, r = .error e) ∨ ∃ w, r = .ok (.inr w)) := by
  have htake : TextAt s.bytes p (chars.take 12) := by
    rw [← List.take_append_drop 12 chars, List.append_assoc] at htext
    exact (textAt_append.1 htext).1
  have hfull : 12 ≤ chars.length → DOT ∉ chars.take 12 → ∃ r,
      Yields (· ≤ len) (walkLevel v s address limit l n 12 0 ⟨p, src, name⟩) calls r calls ∧
        ((∃ e, r = .error e) ∨ ∃ w, r = .ok (.inr w)) := fun hlength hdot =>
    ⟨_, walkLevel_full (plain_of_notMem hdot fun h => hslash (List.mem_of_mem_take h)) htake
      (by simp; omega) (by omega), .inr ⟨_, rfl⟩⟩
  rcases hflaw with ⟨base, rest', rfl, hbase, hflaw⟩ | ⟨hlength, hdot⟩
  · rw [List.length_append] at hlen
    by_cases hlength : base.length < 12
    · have hplain := plain_of_notMem hbase fun h => hslash (List.mem_append_left _ h)
      obtain ⟨e, hrefused⟩ : ∃ e, Yields (· ≤ len) (loadLastLevel v s address limit l n base.length
          ⟨p + base.length, src, Function.update (overlay name 0 base) base.length DOT⟩) calls (.error e)
            calls :=
        loadLastLevel_refused (.inr (hflaw.imp (congrArg List.length) id)) _
      rw [List.append_assoc] at htext
      exact ⟨_, walkLevel_dot hplain htext hlength (by omega) hrefused, .inl ⟨e, rfl⟩⟩
    · refine hfull (by simp; omega) ?_
      rw [List.take_append_of_le_length (by omega)]
      exact fun h => hbase (List.mem_of_mem_take h)
  · exact hfull hlength hdot

end Level

end Gramado

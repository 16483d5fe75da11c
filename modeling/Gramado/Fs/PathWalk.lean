import Gramado.Fs.LoadPath

/-!
# The walk along a path

What `fs_load_path` does on whole paths.

* `countLevels_spec` — the levels of a path are its slashes, as far as they are counted.
* `walkLevels_walk` — a path of names that fit is walked along, load by load (`walkLoads`).
* `walkLevels_refused` — a name with a flaw ends the walk, before anything is loaded for it.
* `fsLoadPath_walks` — both, for the whole call.
-/

namespace Gramado

open EventLog EventM Overlay

/-! ## Paths -/

/-- The path of the names: a slash in front of each. -/
def pathText (names : List (List UInt8)) : List UInt8 := names.flatMap fun chars => SLASH :: chars

/-- The names of the directories, and the name of the file with its dot. -/
def walkNames (dirs : List FolderName) (f : ShortName PathNameChar) : List (List UInt8) :=
  dirs.map FolderName.chars ++ [f.text true]

@[simp] lemma pathText_cons (chars : List UInt8) (names : List (List UInt8)) :
    pathText (chars :: names) = SLASH :: (chars ++ pathText names) := rfl

/-- A name between the slashes of a path. -/
def IsPathName (chars : List UInt8) : Prop := SLASH ∉ chars ∧ 0 ∉ chars

lemma count_pathText {names : List (List UInt8)} (h : ∀ chars ∈ names, IsPathName chars) :
    (pathText names).count SLASH = names.length := by
  induction names with
  | nil => rfl
  | cons chars names ih =>
      have hchars : chars.count SLASH = 0 := List.count_eq_zero.2 (h chars List.mem_cons_self).1
      rw [pathText_cons, List.count_cons_self, List.count_append, hchars,
        ih fun chars hc => h chars (List.mem_cons_of_mem _ hc), List.length_cons, Nat.zero_add]

lemma zero_notMem_pathText {names : List (List UInt8)} (h : ∀ chars ∈ names, IsPathName chars) :
    0 ∉ pathText names := by
  intro hzero
  obtain ⟨chars, hchars, hmem⟩ := List.mem_flatMap.1 hzero
  rcases List.mem_cons.1 hmem with hslash | hmem
  · exact absurd hslash (by decide)
  · exact (h chars hchars).2 hmem

/-! ## The number of levels -/

section Count

variable {s : CString} {len : ℕ} {calls : List PathLoad}

/-- The slashes among the first `left` characters are counted. -/
lemma countLevels_spec : ∀ {text : List UInt8} {left i counter : ℕ}, TextAt s.bytes i (text ++ [0]) →
    0 ∉ text → i + text.length ≤ len →
      Yields (· ≤ len) (countLevels s left i counter) calls
        (.ok (counter + (text.take left).count SLASH)) calls := by
  intro text
  induction text with
  | nil =>
      intro left i counter htext _ hlen
      cases left with
      | zero => exact .pure ..
      | succ left =>
          have hzero : s.bytes i = 0 := htext.head
          have hi : i ≤ len := hlen
          have hne : (0 : UInt8) ≠ SLASH := by decide
          rw [countLevels]
          refine (yields_pathChar hi).bind ?_
          simp only [hzero, if_pos, if_neg hne]
          exact .pure ..
  | cons c text ih =>
      intro left i counter htext hnul hlen
      obtain ⟨hc, htext⟩ := htext
      rw [List.length_cons] at hlen
      cases left with
      | zero => exact .pure ..
      | succ left =>
          have hi : i ≤ len := by omega
          have hne : c ≠ 0 := fun h => hnul (h ▸ List.mem_cons_self)
          rw [countLevels]
          refine (yields_pathChar hi).bind ?_
          have hrest : ∀ counter', Yields (· ≤ len) (countLevels s left (i + 1) counter') calls
              (.ok (counter' + (text.take left).count SLASH)) calls := fun _ =>
            ih htext (fun h => hnul (List.mem_cons_of_mem _ h)) (by omega)
          simp only [hc, if_neg hne, List.take_succ_cons]
          by_cases hslash : c = SLASH
          · have hcount : counter + (List.count SLASH (text.take left) + 1) =
                counter + 1 + List.count SLASH (text.take left) := by omega
            rw [if_pos hslash, hslash, List.count_cons_self, hcount]
            exact hrest _
          · rw [if_neg hslash, List.count_cons_of_ne hslash]
            exact hrest _

/-- `fs_count_path_levels` counts the slashes among the first two thousand characters. -/
lemma fsCountPathLevels_spec {text : List UInt8} (hs : s.Holds text) (hnul : 0 ∉ text) :
    Yields (· ≤ text.length) (fsCountPathLevels s) calls
      (.ok ((text.take MAX_PATH_CHARS).count SLASH)) calls := by
  rw [fsCountPathLevels]
  refine (yields_pathChar (Nat.zero_le _)).bind ?_
  have hloop : Yields (· ≤ text.length) (countLevels s MAX_PATH_CHARS 0 0) calls
      (.ok (0 + (text.take MAX_PATH_CHARS).count SLASH)) calls := countLevels_spec hs hnul (by simp)
  rw [Nat.zero_add] at hloop
  cases text with
  | nil =>
      rw [if_pos hs.head]
      exact .pure ..
  | cons c text =>
      have hne : s.bytes 0 ≠ 0 := by
        rw [hs.head]
        exact fun h => hnul (h ▸ List.mem_cons_self)
      rwa [if_neg hne]

end Count

/-! ## Paths of names that fit -/

/-- The calls that a walk along the directories `dirs` to the file places, from level `l` and the
directory `src` on. -/
def walkLoads (v : PathEnv) (address limit : ℕ) (f : ShortName PathNameChar) :
    ℕ → ℕ → List FolderName → List PathLoad
  | _, src, [] => [fileLoad src address limit f]
  | l, src, d :: dirs =>
      directoryLoad v src l d.chars :: walkLoads v address limit f (l + 1) (v.fsBuffers l) dirs

/-- The calls are placed one behind the other, until one fails. -/
def place (v : PathEnv) : List PathLoad → List PathLoad → Except String ℤ × List PathLoad
  | calls, [] => (.ok 0, calls)
  | calls, load :: loads =>
      if v.fsLoadFile calls load = 0 then place v (calls ++ [load]) loads
      else (.error "fs_load_path: [FAIL] Loading level 0\n", calls ++ [load])

section Walk

variable {v : PathEnv} {s : CString} {address limit l n len : ℕ} {f : ShortName PathNameChar}
  {dirs : List FolderName} {calls : List PathLoad}

lemma FolderName.plain (d : FolderName) : ∀ c ∈ d.chars, c ≠ DOT ∧ c ≠ SLASH :=
  fun c hc => ⟨(d.chars_valid c hc).2.2, (d.chars_valid c hc).2.1⟩

/-- A level is done, and the walk goes on behind it. -/
lemma walkLevels_next {left : ℕ} {w w' : PathWalk} {calls' calls'' : List PathLoad} {r : Except String ℤ}
    (hslash : s.bytes w.p = SLASH) (hp : w.p ≤ len)
    (hlevel : Yields (· ≤ len) (walkLevel v s address limit l n 12 0 ⟨w.p + 1, w.src, w.name⟩) calls
      (.ok (.inr w')) calls')
    (hrest : Yields (· ≤ len) (walkLevels v s address limit n left (l + 1) w') calls' r calls'') :
    Yields (· ≤ len) (walkLevels v s address limit n (left + 1) l w) calls r calls'' := by
  rw [walkLevels]
  refine (yields_pathChar hp).bind ?_
  rw [hslash, if_neg (not_not.2 rfl)]
  exact hlevel.bind hrest

/-- The call returns in a level. -/
lemma walkLevels_return {left : ℕ} {w : PathWalk} {calls' : List PathLoad} {ret : ℤ}
    (hslash : s.bytes w.p = SLASH) (hp : w.p ≤ len)
    (hlevel : Yields (· ≤ len) (walkLevel v s address limit l n 12 0 ⟨w.p + 1, w.src, w.name⟩) calls
      (.ok (.inl ret)) calls') :
    Yields (· ≤ len) (walkLevels v s address limit n (left + 1) l w) calls (.ok ret) calls' := by
  rw [walkLevels]
  refine (yields_pathChar hp).bind ?_
  rw [hslash, if_neg (not_not.2 rfl)]
  exact hlevel.bind (.pure ..)

/-- The call panics in a level. -/
lemma walkLevels_error {left : ℕ} {w : PathWalk} {calls' : List PathLoad} {e : String}
    (hslash : s.bytes w.p = SLASH) (hp : w.p ≤ len)
    (hlevel : Yields (· ≤ len) (walkLevel v s address limit l n 12 0 ⟨w.p + 1, w.src, w.name⟩) calls
      (.error e) calls') :
    Yields (· ≤ len) (walkLevels v s address limit n (left + 1) l w) calls (.error e) calls' := by
  rw [walkLevels]
  refine (yields_pathChar hp).bind ?_
  rw [hslash, if_neg (not_not.2 rfl)]
  exact hlevel.bind_error

/-- **The walk.**  A path of names that fit is walked along, load by load. -/
lemma walkLevels_walk (hbuffers : ∀ l < FS_N_BUFFERS, v.fsBuffers l ≠ 0) (haddress : address ≠ 0) :
    ∀ {dirs : List FolderName} {l : ℕ} {w : PathWalk} {calls : List PathLoad}, l + dirs.length + 1 = n →
      n ≤ FS_N_BUFFERS → TextAt s.bytes w.p (pathText (walkNames dirs f) ++ [0]) →
        w.p + (pathText (walkNames dirs f)).length ≤ len →
          Yields (· ≤ len) (walkLevels v s address limit n (dirs.length + 1) l w) calls
            (place v calls (walkLoads v address limit f l w.src dirs)).1
            (place v calls (walkLoads v address limit f l w.src dirs)).2 := by
  intro dirs
  induction dirs with
  | nil =>
      intro l w calls hn hbound htext hlen
      obtain ⟨hslash, htext⟩ : s.bytes w.p = SLASH ∧
          TextAt s.bytes (w.p + 1) (f.base ++ DOT :: (f.ext ++ [0])) := by
        simpa [walkNames, pathText, TextAt, ShortName.text, DOT] using htext
      have hlen' : w.p + 1 + f.base.length + 1 + f.ext.length ≤ len := by
        simp [walkNames, pathText, ShortName.text] at hlen
        omega
      have hlast : l = n - 1 := by
        rw [← hn]
        rfl
      have hbase := f.base_le
      have hload : Yields (· ≤ len) (loadLastLevel v s address limit l n f.base.length
          ⟨w.p + 1 + f.base.length, w.src, Function.update (overlay w.name 0 f.base) f.base.length DOT⟩)
          calls _ _ :=
        loadLastLevel_file f haddress hlast (fun hnul => (f.ext_chars 0 hnul).1 rfl)
          (textAt_append.1 htext).2.2 hlen'
      have hlevel := walkLevel_dot
        (fun c hc => ⟨(f.base_chars c hc).2.2, (f.base_chars c hc).2.1⟩) htext (by omega) (by omega) hload
      rw [walkLoads, place]
      rw [loadResult] at hlevel
      by_cases hok : v.fsLoadFile calls (fileLoad w.src address limit f) = 0
      · rw [if_pos hok] at hlevel ⊢
        exact walkLevels_return hslash (by omega) hlevel
      · rw [if_neg hok] at hlevel ⊢
        exact walkLevels_error hslash (by omega) hlevel
  | cons d dirs ih =>
      intro l w calls hn hbound htext hlen
      rw [List.length_cons] at hn
      obtain ⟨hslash, htext⟩ : s.bytes w.p = SLASH ∧
          TextAt s.bytes (w.p + 1) (d.chars ++ (pathText (walkNames dirs f) ++ [0])) := by
        simpa [walkNames, pathText, TextAt] using htext
      have hlen' : w.p + 1 + d.chars.length + (pathText (walkNames dirs f)).length ≤ len := by
        simp [walkNames, pathText] at hlen ⊢
        omega
      have hd := d.chars_le
      have hload : Yields (· ≤ len) (loadDirectoryLevel v l d.chars.length
          ⟨w.p + 1 + d.chars.length, w.src, Function.update (overlay w.name 0 d.chars) d.chars.length SLASH⟩)
          calls _ _ :=
        loadDirectoryLevel_folder (hbuffers l (by omega)) (by omega) d.chars_pos d.chars_le
      have hnext := (textAt_append.1 htext).2
      obtain ⟨rest, hrest⟩ : ∃ rest, pathText (walkNames dirs f) ++ [0] = SLASH :: rest := by
        cases dirs <;> exact ⟨_, rfl⟩
      rw [hrest] at htext
      have hlevel : Yields (· ≤ len) (walkLevel v s address limit l n 12 0 ⟨w.p + 1, w.src, w.name⟩) calls _ _ :=
        walkLevel_slash d.plain htext (by omega) (by omega) hload
      rw [walkLoads, place]
      rw [loadResult] at hlevel
      by_cases hok : v.fsLoadFile calls (directoryLoad v w.src l d.chars) = 0
      · rw [if_pos hok] at hlevel ⊢
        exact walkLevels_next hslash (by omega) hlevel (ih (by omega) hbound hnext hlen')
      · rw [if_neg hok] at hlevel ⊢
        exact walkLevels_error hslash (by omega) hlevel

/-! ## Names with a flaw -/

/-- The name is the one of a level before the last, or of the last, and has a flaw. -/
def FlawAt (n k : ℕ) (chars : List UInt8) : Prop :=
  k + 1 < n ∧ FolderFlaw chars ∨ k + 1 = n ∧ FileFlaw chars

/-- The call panics at a level that does not start with a slash. -/
lemma walkLevels_noSlash {left : ℕ} {w : PathWalk} (hslash : s.bytes w.p ≠ SLASH) (hp : w.p ≤ len) :
    Yields (· ≤ len) (walkLevels v s address limit n (left + 1) l w) calls
      (.error "fs_load_path: All levels need to start with '/'\n") calls := by
  rw [walkLevels]
  refine (yields_pathChar hp).bind ?_
  rw [if_pos hslash]
  exact .fault ..

/-- **The refusal.**  A name with a flaw ends the walk, before anything is loaded for it. -/
lemma walkLevels_refused : ∀ {names : List (List UInt8)} {k l left : ℕ} {w : PathWalk} {calls : List PathLoad},
    (∀ chars ∈ names, IsPathName chars) → l + left = n → left ≤ names.length →
      TextAt s.bytes w.p (pathText names ++ [0]) → w.p + (pathText names).length ≤ len →
        (hk : k < names.length) → FlawAt left k names[k] →
          ∃ r calls', Yields (· ≤ len) (walkLevels v s address limit n left l w) calls r calls' ∧ r ≠ .ok 0 ∧
            calls'.length ≤ calls.length + k := by
  intro names
  induction names with
  | nil =>
      intro k l left w calls _ _ _ _ _ hk
      cases hk
  | cons chars names ih =>
      intro k l left w calls hnames hn hleft htext hlen hk hflaw
      obtain ⟨left, rfl⟩ : ∃ m, left = m + 1 := ⟨left - 1, by rcases hflaw with h | h <;> omega⟩
      have hchars : SLASH ∉ chars := (hnames chars List.mem_cons_self).1
      obtain ⟨hslash, htext⟩ : s.bytes w.p = SLASH ∧
          TextAt s.bytes (w.p + 1) (chars ++ (pathText names ++ [0])) := by
        simpa [pathText, TextAt] using htext
      rw [pathText_cons, List.length_cons, List.length_append] at hlen
      have hp : w.p ≤ len := by omega
      have hcharsLen : w.p + 1 + chars.length ≤ len := by omega
      rw [List.length_cons] at hleft
      by_cases hlast : left = 0
      · subst hlast
        obtain ⟨rfl, hfile⟩ : k = 0 ∧ FileFlaw chars := by
          rcases hflaw with h | ⟨hk, h⟩
          · omega
          · obtain rfl : k = 0 := by omega
            exact ⟨rfl, h⟩
        obtain ⟨r, hlevel, ⟨e, rfl⟩ | ⟨w', rfl⟩⟩ := walkLevel_fileFlaw (v := v) hfile hchars htext hcharsLen
        · exact ⟨_, _, walkLevels_error hslash hp hlevel, (fun h => by cases h), le_rfl⟩
        · exact ⟨_, _, walkLevels_next hslash hp hlevel (.pure ..), by simp, le_rfl⟩
      obtain ⟨next, names, rfl⟩ := List.exists_cons_of_length_pos (show 0 < names.length by omega)
      obtain ⟨r, calls', hlevel, hcalls, hkept, hends⟩ :=
        walkLevel_cases (v := v) (show l + 1 < n by omega) hchars htext hcharsLen
      -- nothing is loaded for a name with a flaw
      have hbound : calls'.length ≤ calls.length + k := by
        cases k with
        | zero =>
            rcases hflaw with ⟨_, hfolder⟩ | ⟨hk, _⟩
            · exact (congrArg List.length (hkept hfolder)).le
            · omega
        | succ k => omega
      rcases hends with ⟨e, rfl⟩ | ⟨w', rfl, ⟨hw', hfits⟩ | ⟨hw', hlong⟩⟩
      · exact ⟨_, _, walkLevels_error hslash hp hlevel, (fun h => by cases h), hbound⟩
      · cases k with
        | zero =>
            rcases hflaw with ⟨_, hfolder⟩ | ⟨hk, _⟩
            · exact absurd hfolder hfits
            · omega
        | succ k =>
            have hnext := (textAt_append.1 htext).2
            rw [← hw'] at hnext
            obtain ⟨r, calls'', hrest, hr, hfewer⟩ := ih (fun c hc => hnames c (List.mem_cons_of_mem _ hc))
              (show l + 1 + left = n by omega) (by omega) hnext (by omega)
              (Nat.lt_of_succ_lt_succ hk) (hflaw.imp (And.imp_left (by omega)) (And.imp_left (by omega)))
            exact ⟨r, calls'', walkLevels_next hslash hp hlevel hrest, hr, by omega⟩
      · -- the level ended among the characters of the name
        obtain ⟨left, rfl⟩ := Nat.exists_eq_succ_of_ne_zero hlast
        have hchar : s.bytes (w.p + 1 + 12) = chars[12] := (textAt_append.1 htext).1.getElem hlong
        have hno : s.bytes w'.p ≠ SLASH := by
          rw [hw', hchar]
          exact fun h => hchars (h ▸ List.getElem_mem hlong)
        exact ⟨_, _, walkLevels_next hslash hp hlevel (walkLevels_noSlash hno (by omega)), (fun h => by cases h), hbound⟩

end Walk

/-! ## The whole call -/

/-- The load `j` succeeds, behind the calls before and the loads in front of it. -/
def LoadSucceeds (v : PathEnv) (calls loads : List PathLoad) (j : ℕ) : Prop :=
  ∀ load ∈ loads[j]?, v.fsLoadFile (calls ++ loads.take j) load = 0

/-- **The walk is done**: the loads are placed in order, each when those in front of it succeed, the call
returns 0 when all of them do, and nothing behind the end of the path is read. -/
structure Walks (v : PathEnv) (loads : List PathLoad) (len : ℕ)
    (r : Outcome String (List PathLoad) ℕ ℤ) : Prop where
  order : r.state <+: loads
  placed : ∀ i < loads.length, i < r.state.length ↔ ∀ j < i, LoadSucceeds v [] loads j
  returns : r.result = .ok 0 ↔ ∀ j, LoadSucceeds v [] loads j
  inside : ∀ k ∈ r.events, k ≤ len

/-- **The path is refused**: the call does not return 0, places at most `k` loads, and reads nothing behind
the end of the path. -/
structure Refuses (k len : ℕ) (r : Outcome String (List PathLoad) ℕ ℤ) : Prop where
  result : r.result ≠ .ok 0
  placed : r.state.length ≤ k
  inside : ∀ k ∈ r.events, k ≤ len

lemma Refuses.mono {k k' len : ℕ} {r : Outcome String (List PathLoad) ℕ ℤ} (h : Refuses k len r)
    (hk : k ≤ k') : Refuses k' len r :=
  ⟨h.result, h.placed.trans hk, h.inside⟩

section Place

variable {v : PathEnv} {calls loads : List PathLoad} {load : PathLoad} {j : ℕ}

@[simp] lemma loadSucceeds_zero :
    LoadSucceeds v calls (load :: loads) 0 ↔ v.fsLoadFile calls load = 0 := by
  simp [LoadSucceeds]

@[simp] lemma loadSucceeds_succ :
    LoadSucceeds v calls (load :: loads) (j + 1) ↔ LoadSucceeds v (calls ++ [load]) loads j := by
  simp [LoadSucceeds]

lemma place_prefix : ∀ {loads calls : List PathLoad},
    ∃ done, done <+: loads ∧ (place v calls loads).2 = calls ++ done := by
  intro loads
  induction loads with
  | nil => exact fun {calls} => ⟨[], List.nil_prefix, (List.append_nil _).symm⟩
  | cons load loads ih =>
      intro calls
      rw [place]
      by_cases hok : v.fsLoadFile calls load = 0
      · rw [if_pos hok]
        obtain ⟨done, hdone, heq⟩ : ∃ done, done <+: loads ∧
            (place v (calls ++ [load]) loads).2 = calls ++ [load] ++ done := ih
        refine ⟨load :: done, (List.prefix_cons_inj _).2 hdone, ?_⟩
        rw [heq, List.append_assoc, List.singleton_append]
      · rw [if_neg hok]
        exact ⟨[load], ⟨loads, rfl⟩, rfl⟩

/-- A load is placed when those in front of it succeed. -/
lemma place_placed : ∀ {loads calls : List PathLoad}, ∀ i < loads.length,
    (calls.length + i < (place v calls loads).2.length ↔ ∀ j < i, LoadSucceeds v calls loads j) := by
  intro loads
  induction loads with
  | nil => exact fun {calls} i hi => absurd hi (Nat.not_lt_zero i)
  | cons load loads ih =>
      intro calls i hi
      cases i with
      | zero =>
          refine iff_of_true ?_ nofun
          rw [place]
          by_cases hok : v.fsLoadFile calls load = 0
          · obtain ⟨done, -, heq⟩ : ∃ done, done <+: loads ∧
                (place v (calls ++ [load]) loads).2 = calls ++ [load] ++ done := place_prefix
            rw [if_pos hok, heq]
            simp
          · rw [if_neg hok]
            simp
      | succ i =>
          rw [Nat.forall_lt_succ_left, loadSucceeds_zero, place]
          simp only [loadSucceeds_succ]
          by_cases hok : v.fsLoadFile calls load = 0
          · rw [if_pos hok, ← ih i (Nat.lt_of_succ_lt_succ hi)]
            simp [hok, Nat.add_assoc, Nat.add_comm 1]
          · rw [if_neg hok]
            refine iff_of_false ?_ fun h => hok h.1
            simp

/-- The call returns when all loads succeed. -/
lemma place_returns : ∀ {loads calls : List PathLoad},
    ((place v calls loads).1 = .ok 0 ↔ ∀ j, LoadSucceeds v calls loads j) := by
  intro loads
  induction loads with
  | nil => exact fun {calls} => iff_of_true rfl (by simp [LoadSucceeds])
  | cons load loads ih =>
      intro calls
      rw [← Nat.and_forall_add_one, loadSucceeds_zero, place]
      simp only [loadSucceeds_succ]
      by_cases hok : v.fsLoadFile calls load = 0
      · rw [if_pos hok, ih]
        exact (and_iff_right hok).symm
      · rw [if_neg hok]
        exact iff_of_false nofun fun h => hok h.1

/-- What is placed without a call before. -/
lemma Walks.of_place {x : PathM ℤ} {len : ℕ}
    (h : Yields (· ≤ len) x [] (place v [] loads).1 (place v [] loads).2) : Walks v loads len (x []) := by
  obtain ⟨done, hdone, hstate⟩ : ∃ done, done <+: loads ∧ (place v [] loads).2 = [] ++ done := place_prefix
  constructor
  · rw [h.state, hstate]
    exact hdone
  · intro i hi
    rw [h.state, ← place_placed i hi, List.length_nil, Nat.zero_add]
  · rw [h.result]
    exact place_returns
  · exact h.events

end Place

section Call

variable {v : PathEnv} {s : CString} {address bufferSize : ℕ} {garbage : ℕ → UInt8} {text : List UInt8}

/-- A path that is not absolute, or of no level or too many. -/
lemma fsLoadPath_refused (hs : s.Holds text) (hnul : 0 ∉ text) (haddress : address ≠ 0)
    (hsize : bufferSize ≠ 0)
    (h : text.head? ≠ some SLASH ∨ FS_N_BUFFERS ≤ (text.take MAX_PATH_CHARS).count SLASH) :
    Refuses 0 text.length (fsLoadPath v (some s) address bufferSize garbage []) := by
  suffices hpanics : ∃ e, Yields (· ≤ text.length) (fsLoadPath v (some s) address bufferSize garbage) []
      (.error e) [] by
    obtain ⟨e, hpanics⟩ := hpanics
    exact ⟨by rw [hpanics.result]; nofun, by rw [hpanics.state]; exact le_rfl, hpanics.events⟩
  rw [fsLoadPath]
  cases text with
  | nil =>
      have hzero : s.bytes 0 = 0 := hs.head
      refine ⟨"fs_load_path: *path\n", (yields_pathChar (Nat.zero_le _)).bind ?_⟩
      rw [if_pos hzero]
      exact .fault ..
  | cons c text =>
      have hc : s.bytes 0 = c := hs.head
      have hne : c ≠ 0 := fun h => hnul (h ▸ List.mem_cons_self)
      by_cases hn : ((c :: text).take MAX_PATH_CHARS).count SLASH = 0 ∨
          ((c :: text).take MAX_PATH_CHARS).count SLASH ≥ FS_N_BUFFERS
      · refine ⟨"fs_load_path: n_levels\n", (yields_pathChar (Nat.zero_le _)).bind ?_⟩
        rw [hc, if_neg hne, if_neg haddress, if_neg hsize]
        refine (fsCountPathLevels_spec hs hnul).bind ?_
        rw [if_pos hn]
        exact .fault ..
      · have hslash : c ≠ SLASH := by
          rintro rfl
          rcases h with h | h
          · exact h rfl
          · exact hn (.inr h)
        refine ⟨"fs_load_path: Not absolute pathname\n", (yields_pathChar (Nat.zero_le _)).bind ?_⟩
        rw [hc, if_neg hne, if_neg haddress, if_neg hsize]
        refine (fsCountPathLevels_spec hs hnul).bind ?_
        rw [if_neg hn]
        refine (yields_pathChar (Nat.zero_le _)).bind ?_
        rw [hc, if_pos hslash]
        exact .fault ..

/-- An absolute path of few levels is walked along. -/
lemma fsLoadPath_walked {rest : List UInt8} {n : ℕ} {r : Except String ℤ} {calls : List PathLoad}
    (hs : s.Holds text) (hnul : 0 ∉ text)
    (haddress : address ≠ 0) (hsize : bufferSize ≠ 0) (habsolute : text = SLASH :: rest)
    (hn : (text.take MAX_PATH_CHARS).count SLASH = n) (hbound : n < FS_N_BUFFERS)
    (hwalk : Yields (· ≤ text.length) (walkLevels v s address (bufferSize % 2 ^ 32) n n 0
      ⟨0, VOLUME1_ROOTDIR_ADDRESS, garbage⟩) [] r calls) :
    Yields (· ≤ text.length) (fsLoadPath v (some s) address bufferSize garbage) [] r calls := by
  have hslash : s.bytes 0 = SLASH := by
    rw [habsolute] at hs
    exact hs.head
  have hne : SLASH ≠ 0 := by decide
  have hpos : n ≠ 0 := by
    rw [← hn, habsolute]
    simp [MAX_PATH_CHARS]
  rw [fsLoadPath]
  refine (yields_pathChar (Nat.zero_le _)).bind ?_
  rw [hslash, if_neg hne, if_neg haddress, if_neg hsize]
  refine (fsCountPathLevels_spec hs hnul).bind ?_
  rw [hn, if_neg (by omega)]
  refine (yields_pathChar (Nat.zero_le _)).bind ?_
  rwa [hslash, if_neg (not_not.2 rfl)]

/-- The names of a walk are names in a path. -/
lemma isPathName_walkNames {dirs : List FolderName} {f : ShortName PathNameChar} :
    ∀ chars ∈ walkNames dirs f, IsPathName chars := by
  intro chars hchars
  rcases List.mem_append.1 hchars with hdir | hfile
  · obtain ⟨d, -, rfl⟩ := List.mem_map.1 hdir
    exact ⟨fun h => (d.chars_valid _ h).2.1 rfl, fun h => (d.chars_valid _ h).1 rfl⟩
  · have hno : ∀ c, c ≠ DOT → (PathNameChar c → False) → c ∉ f.text true := by
      intro c hdot hc hmem
      rcases List.mem_append.1 hmem with hbase | hext
      · exact hc (f.base_chars c hbase)
      · rcases List.mem_cons.1 hext with heq | hext
        · exact hdot heq
        · exact hc (f.ext_chars c hext)
    rw [List.mem_singleton.1 hfile]
    exact ⟨hno SLASH (by decide) fun h => h.2.1 rfl, hno 0 (by decide) fun h => h.1 rfl⟩

/-- A path of names that fit is short. -/
lemma length_walkNames_le (dirs : List FolderName) (f : ShortName PathNameChar) :
    (pathText (walkNames dirs f)).length ≤ 11 * dirs.length + 13 := by
  induction dirs with
  | nil =>
      have hbase := f.base_le
      have hext := f.ext_le
      simp [walkNames, pathText, ShortName.text]
      omega
  | cons d dirs ih =>
      have hd := d.chars_le
      simp only [walkNames, List.map_cons, List.cons_append, pathText_cons, List.length_cons,
        List.length_append] at ih ⊢
      omega

/-- **Loading a path.**  A path of fewer than `FS_N_BUFFERS` names, up to ten characters for each directory and
a base and an extension for the file, is walked along; a path that is not absolute, has more names, or a name
with a flaw is refused. -/
theorem fsLoadPath_walks (v : PathEnv) (hbuffers : ∀ l < FS_N_BUFFERS, v.fsBuffers l ≠ 0)
    {address bufferSize : ℕ} (haddress : address ≠ 0) (hsize : bufferSize ≠ 0) (garbage : ℕ → UInt8)
    (s : CString) :
    (∀ dirs f, s.Holds (pathText (walkNames dirs f)) → dirs.length + 1 < FS_N_BUFFERS →
      Walks v (walkLoads v address (bufferSize % 2 ^ 32) f 0 VOLUME1_ROOTDIR_ADDRESS dirs)
        (pathText (walkNames dirs f)).length (fsLoadPath v (some s) address bufferSize garbage [])) ∧
    (∀ names k, (∀ chars ∈ names, IsPathName chars) → s.Holds (pathText names) → (hk : k < names.length) →
      FlawAt ((pathText names).take MAX_PATH_CHARS |>.count SLASH) k names[k] →
        Refuses k (pathText names).length (fsLoadPath v (some s) address bufferSize garbage [])) ∧
    ∀ text, 0 ∉ text → s.Holds text →
      text.head? ≠ some SLASH ∨ FS_N_BUFFERS ≤ (text.take MAX_PATH_CHARS).count SLASH →
        Refuses 0 text.length (fsLoadPath v (some s) address bufferSize garbage []) := by
  refine ⟨fun dirs f hs hfew => ?_, fun names k hnames hs hk hflaw => ?_, fun text hnul hs h => ?_⟩
  · have hnames : ∀ chars ∈ walkNames dirs f, IsPathName chars := isPathName_walkNames
    have hlength := length_walkNames_le dirs f
    obtain ⟨rest, hrest⟩ : ∃ rest, pathText (walkNames dirs f) = SLASH :: rest := by
      cases dirs <;> exact ⟨_, rfl⟩
    have hcount : ((pathText (walkNames dirs f)).take MAX_PATH_CHARS).count SLASH = dirs.length + 1 := by
      rw [List.take_of_length_le (by simp only [FS_N_BUFFERS, MAX_PATH_CHARS] at *; omega),
        count_pathText hnames]
      simp [walkNames]
    have hwalk : Yields (· ≤ (pathText (walkNames dirs f)).length)
        (walkLevels v s address (bufferSize % 2 ^ 32) (dirs.length + 1) (dirs.length + 1) 0
          ⟨0, VOLUME1_ROOTDIR_ADDRESS, garbage⟩) [] _ _ :=
      walkLevels_walk hbuffers haddress (by omega) hfew.le hs (Nat.zero_add _).le
    exact .of_place (fsLoadPath_walked hs (zero_notMem_pathText hnames) haddress hsize hrest hcount hfew hwalk)
  · have hnul := zero_notMem_pathText hnames
    rcases Nat.lt_or_ge (((pathText names).take MAX_PATH_CHARS).count SLASH) FS_N_BUFFERS with hfew | hmany
    · obtain ⟨chars, names, rfl⟩ := List.exists_cons_of_length_pos (Nat.zero_lt_of_lt hk)
      have hleft : ((pathText (chars :: names)).take MAX_PATH_CHARS).count SLASH ≤ (chars :: names).length := by
        rw [← count_pathText hnames]
        exact (List.take_sublist _ _).count_le _
      obtain ⟨r, calls, hwalk, hr, hcalls⟩ : ∃ r calls, Yields _ (walkLevels v s address (bufferSize % 2 ^ 32)
          _ _ 0 ⟨0, VOLUME1_ROOTDIR_ADDRESS, garbage⟩) [] r calls ∧ r ≠ .ok 0 ∧ calls.length ≤ 0 + k :=
        walkLevels_refused hnames (Nat.zero_add _) hleft hs (Nat.zero_add _).le hk hflaw
      have hcall : Yields (· ≤ (pathText (chars :: names)).length)
          (fsLoadPath v (some s) address bufferSize garbage) [] r calls :=
        fsLoadPath_walked hs hnul haddress hsize (pathText_cons ..) rfl hfew hwalk
      exact ⟨by rwa [hcall.result], by simpa [hcall.state] using hcalls, hcall.events⟩
    · exact (fsLoadPath_refused hs hnul haddress hsize (.inr hmany)).mono (Nat.zero_le k)
  · exact fsLoadPath_refused hs hnul haddress hsize h

end Call

/-! ## Some paths -/

/-- A string with zeros behind the text. -/
def CString.ofText (text : List UInt8) : CString where
  bytes k := text.getD k 0
  terminated := ⟨text.length, List.getD_eq_default _ _ le_rfl⟩

lemma CString.holds_ofText (text : List UInt8) : (CString.ofText text).Holds text := by
  have htail : ∀ (front back : List UInt8), front ++ back = text →
      TextAt (CString.ofText text).bytes front.length (back ++ [0]) := by
    intro front back
    induction back generalizing front with
    | nil =>
        rintro rfl
        exact ⟨by simp [CString.ofText], trivial⟩
    | cons c back ih =>
        intro htext
        refine ⟨?_, by simpa using ih (front ++ [c]) (by simpa using htext)⟩
        rw [← htext]
        simp [CString.ofText]
  exact htail [] text rfl

/-- Every load succeeds. -/
def wholeDisk : PathEnv where
  fsBuffers l := 0x1000 * (l + 1)
  fsLoadFile _ _ := 0

/-- `GRAMADO`. -/
def gramadoFolder : FolderName :=
  ⟨[0x47, 0x52, 0x41, 0x4D, 0x41, 0x44, 0x4F], by decide, by decide, by decide +kernel⟩

/-- `INIT.BIN`. -/
def initFile : ShortName PathNameChar :=
  ⟨[0x49, 0x4E, 0x49, 0x54], [0x42, 0x49, 0x4E], by decide, by decide, by decide,
    by decide +kernel, by decide +kernel⟩

/-- `/GRAMADO/INIT.BIN` is walked along. -/
theorem fsLoadPath_walks_init :
    Walks wholeDisk
      (walkLoads wholeDisk 0x30A00000 (65536 % 2 ^ 32) initFile 0 VOLUME1_ROOTDIR_ADDRESS [gramadoFolder])
      (pathText (walkNames [gramadoFolder] initFile)).length
      (fsLoadPath wholeDisk (some (.ofText (pathText (walkNames [gramadoFolder] initFile)))) 0x30A00000 65536
        (fun _ => 0) []) :=
  (fsLoadPath_walks wholeDisk (fun l _ => Nat.mul_ne_zero (by decide) l.succ_ne_zero) (by decide) (by decide)
    (fun _ => 0) _).1 [gramadoFolder] initFile (CString.holds_ofText _) (by decide)

/-- **Names that fit in an entry are not all walked along.**  Nothing is loaded for `/A.B/C.D`, with a dot in the
name of a directory, for `/A/B/C/D/E.F`, with five names, and for `/A`, where the character behind the zero is
read. -/
theorem fsLoadPath_walks_fails :
    let call := fun text => fsLoadPath wholeDisk (some (.ofText text)) 0x30A00000 65536 (fun _ => 0) []
    (call [0x2F, 0x41, 0x2E, 0x42, 0x2F, 0x43, 0x2E, 0x44]).result =
        .error "fs_load_path: '.' found into a subdirectory\n" ∧
      (call [0x2F, 0x41, 0x2E, 0x42, 0x2F, 0x43, 0x2E, 0x44]).state = [] ∧
      (call [0x2F, 0x41, 0x2F, 0x42, 0x2F, 0x43, 0x2F, 0x44, 0x2F, 0x45, 0x2E, 0x46]).result =
        .error "fs_load_path: n_levels\n" ∧
      (call [0x2F, 0x41, 0x2F, 0x42, 0x2F, 0x43, 0x2F, 0x44, 0x2F, 0x45, 0x2E, 0x46]).state = [] ∧
      (call [0x2F, 0x41]).result = .ok (-1) ∧ (call [0x2F, 0x41]).state = [] ∧
        3 ∈ (call [0x2F, 0x41]).events := by
  decide +kernel

end Gramado

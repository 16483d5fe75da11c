import Mathlib.Data.List.GetD
import Mathlib.Data.List.TakeWhile
import Gramado.Core.CTypes
import Gramado.Lib.Loop

/-!
# The start of a program

`crt0` of `os/crt/crt0.c` reads a command line from `stdin` and splits it with `strtok` of `libc/string.c`
into the argument vector of `main`.  A pointer is an index into `buffer[]`.  `words` are the runs of characters
between the delimiters.

The token list has room for 80 pointers, with the null pointer at its end, and 512 bytes have room for 256 words.

* `crt0_calls_iff` — with which command lines `main` gets its arguments.
-/

namespace Gramado.Libc

/-- `LSH_TOK_DELIM`. -/
def LSH_TOK_DELIM : List UInt8 := [' '.toUInt8, '\t'.toUInt8, '\r'.toUInt8, '\n'.toUInt8, 7]

/-- `TOKENLIST_MAX_DEFAULT`. -/
def TOKENLIST_MAX_DEFAULT : ℕ := 80

/-- The size of `buffer[]`. -/
def CRT_BUFFER : ℕ := 4096

/-! ## `strtok` -/

section Strtok

variable (delim : List UInt8) (b : ℕ → UInt8)

/-- The loop `cont` of `strtok_r`, with `left` bytes of the buffer from `s` on: the place of the first
character that is no delimiter. -/
def skipDelimiters : ℕ → ℕ → Except Fault ℕ
  | 0, _ => .error .badPointer
  | left + 1, s => if b s ∈ delim then skipDelimiters left (s + 1) else .ok s

/-- The second loop: the place of the first delimiter, or of the `NUL`. -/
def scanToken : ℕ → ℕ → Except Fault ℕ
  | 0, _ => .error .badPointer
  | left + 1, s => if b s ∈ delim ∨ b s = 0 then .ok s else scanToken left (s + 1)

/-- What a call of `strtok` leaves: the token, the static `last`, and the buffer. -/
structure Strtok where
  tok : Option ℕ
  last : Option ℕ
  buffer : ℕ → UInt8

/-- `strtok_r`, and `strtok` with it. -/
def strtok (s last : Option ℕ) : Except Fault Strtok :=
  match s.or last with
  | none => .ok ⟨none, last, b⟩
  | some s => do
      let tok ← skipDelimiters delim b (CRT_BUFFER - s) s
      if b tok = 0 then .ok ⟨none, none, b⟩
      else do
        let w ← scanToken delim b (CRT_BUFFER - (tok + 1)) (tok + 1)
        if b w = 0 then .ok ⟨some tok, none, b⟩
        else .ok ⟨some tok, some (w + 1), Function.update b w 0⟩

end Strtok

/-! ## `crt0` -/

/-- The variables of the loop over the tokens. -/
structure TokenLoop where
  tokenList : ℕ → Option ℕ
  token : Option ℕ
  index : ℕ
  last : Option ℕ
  buffer : ℕ → UInt8

/-- `tokenList[index] = token`. -/
def storeToken (tokenList : ℕ → Option ℕ) (index : ℕ) (token : Option ℕ) : Except Fault (ℕ → Option ℕ) :=
  if index < TOKENLIST_MAX_DEFAULT then .ok (Function.update tokenList index token) else .error .badPointer

/-- The arguments of `main`. -/
structure MainCall where
  argc : ℕ
  argv : ℕ → Option ℕ
  buffer : ℕ → UInt8

/-- One turn of the loop over the tokens, and the end of the list behind it. -/
def tokenTurn (v : TokenLoop) : Except Fault (MainCall ⊕ TokenLoop) :=
  match v.token with
  | none => do
      let tokenList ← storeToken v.tokenList v.index none
      .ok (.inl ⟨v.index, tokenList, v.buffer⟩)
  | some token => do
      let tokenList ← storeToken v.tokenList v.index (some token)
      let r ← strtok LSH_TOK_DELIM v.buffer none v.last
      .ok (.inr ⟨tokenList, r.tok, v.index + 1, r.last, r.buffer⟩)

/-- The buffer of 512 zeros (what is behind them is never looked at) after the bytes were read into it and its last one was set to zero. -/
def commandLine (bytes : List UInt8) (i : ℕ) : UInt8 := if i = 511 then 0 else bytes.getD i 0

/-- `crt0` from the first `strtok` to the call of `main`, if it comes to it within so many turns; `read`
left the bytes in the buffer, and the list is not initialised. -/
def crt0 (bytes : List UInt8) (tokenList : ℕ → Option ℕ) (turns : ℕ) : Option (Except Fault MainCall) :=
  match strtok LSH_TOK_DELIM (commandLine bytes) (some 0) none with
  | .error e => some (.error e)
  | .ok r =>
      match storeToken tokenList 0 r.tok with
      | .error e => some (.error e)
      | .ok tokenList => Loop.within tokenTurn turns ⟨tokenList, r.tok, 0, r.last, r.buffer⟩

/-! ## The command line -/

/-- What `read` does with the 512 bytes that are asked for. -/
inductive StdinRead
  | fails
  | endOfFile
  | reads (bytes : List UInt8) (pos : 1 ≤ bytes.length) (le : bytes.length ≤ 512)

/-- The bytes that are read. -/
def StdinRead.bytes : StdinRead → List UInt8
  | .fails => []
  | .endOfFile => []
  | .reads bytes _ _ => bytes

/-- The characters before the first `NUL`, the last byte of 512 being taken as one. -/
def lineBeforeNul (bytes : List UInt8) : List UInt8 := (bytes.take 511).takeWhile (· ≠ 0)

/-- The maximal runs of characters that are no delimiters. -/
def words (line : List UInt8) : List (List UInt8) :=
  (line.splitOnP (· ∈ LSH_TOK_DELIM)).filter (· ≠ [])

/-- The string at `p`. -/
structure StringAt (b : ℕ → UInt8) (p : ℕ) (w : List UInt8) : Prop where
  chars : ∀ i < w.length, b (p + i) = w.getD i 0
  nonzero : ∀ c ∈ w, c ≠ 0
  nul : b (p + w.length) = 0

/-- `main` gets the words in order, and a null pointer behind them. -/
structure PassesWords (line : List UInt8) (call : MainCall) : Prop where
  argc : call.argc = (words line).length
  argv : ∀ i < call.argc, ∃ p, call.argv i = some p ∧ StringAt call.buffer p ((words line).getD i [])
  null : call.argv call.argc = none

/-! ## Words -/

variable {b b' : ℕ → UInt8} {p s : ℕ} {c : UInt8} {line w : List UInt8}

/-- The delimiters are no word. -/
lemma words_delimiter (hc : c ∈ LSH_TOK_DELIM) (line : List UInt8) : words (c :: line) = words line := by
  rw [words, List.splitOnP_cons_eq_if_modifyHead, if_pos (by simpa using hc), List.filter_cons, if_neg (by simp)]
  rfl

/-- A run with nothing behind it. -/
lemma words_single (hw : ∀ c ∈ w, c ∉ LSH_TOK_DELIM) (hne : w ≠ []) : words w = [w] := by
  rw [words, List.splitOnP_eq_singleton (by simpa using hw), List.filter_cons, if_pos (by simpa using hne)]
  rfl

/-- A run with a delimiter behind it. -/
lemma words_append (hw : ∀ c ∈ w, c ∉ LSH_TOK_DELIM) (hne : w ≠ []) (hc : c ∈ LSH_TOK_DELIM)
    (line : List UInt8) : words (w ++ c :: line) = w :: words line := by
  rw [words, List.splitOnP_append_cons_of_forall_mem (by simpa using hw) c (by simpa using hc),
    List.filter_cons, if_pos (by simpa using hne)]
  rfl

/-- A line begins with delimiters, and goes on with a word or ends. -/
lemma words_eq (line : List UInt8) :
    words line = words (line.dropWhile (· ∈ LSH_TOK_DELIM)) := by
  induction line with
  | nil => rfl
  | cons c line ih =>
      by_cases hc : c ∈ LSH_TOK_DELIM
      · rw [words_delimiter hc, ih, List.dropWhile_cons_of_pos (by simpa using hc)]
      · rw [List.dropWhile_cons_of_neg (by simpa using hc)]

/-! ## What `strtok` does -/

lemma StringAt.congr (h : StringAt b p w) (hsame : ∀ i ≤ w.length, b' (p + i) = b (p + i)) :
    StringAt b' p w where
  chars i hi := (hsame i hi.le).trans (h.chars i hi)
  nonzero := h.nonzero
  nul := (hsame _ le_rfl).trans h.nul

lemma StringAt.head (h : StringAt b p (c :: line)) : b p = c := h.chars 0 (Nat.succ_pos _)

lemma StringAt.tail (h : StringAt b p (c :: line)) : StringAt b (p + 1) line where
  chars i hi := by
    have := h.chars (i + 1) (Nat.succ_lt_succ hi)
    rwa [List.getD_cons_succ, ← Nat.add_assoc, Nat.add_right_comm] at this
  nonzero a ha := h.nonzero a (List.mem_cons_of_mem _ ha)
  nul := by
    have := h.nul
    rwa [List.length_cons, ← Nat.add_assoc, Nat.add_right_comm] at this

lemma StringAt.suffix : ∀ {w line : List UInt8} {p : ℕ}, StringAt b p (w ++ line) →
    StringAt b (p + w.length) line
  | [], _, _, h => h
  | c :: w, line, p, h => by
      have := h.tail.suffix
      rwa [Nat.add_assoc, Nat.add_comm 1, ← List.length_cons] at this

lemma skipDelimiters_spec (h : StringAt b s line) : ∀ left, line.length < left →
    skipDelimiters LSH_TOK_DELIM b left s
      = .ok (s + (line.takeWhile (· ∈ LSH_TOK_DELIM)).length) := by
  induction line generalizing s with
  | nil =>
      rintro (_ | left) hleft
      · omega
      · have hnul : b s = 0 := h.nul
        rw [skipDelimiters, hnul, if_neg (by decide)]
        rfl
  | cons c line ih =>
      rintro (_ | left) hleft
      · omega
      · rw [skipDelimiters, h.head]
        by_cases hc : c ∈ LSH_TOK_DELIM
        · rw [if_pos hc, ih h.tail left (by rw [List.length_cons] at hleft; omega),
            List.takeWhile_cons_of_pos (by simpa using hc), List.length_cons, Nat.add_assoc, Nat.add_comm 1]
        · rw [if_neg hc, List.takeWhile_cons_of_neg (by simpa using hc)]
          rfl

lemma scanToken_spec (h : StringAt b s line) : ∀ left, line.length < left →
    scanToken LSH_TOK_DELIM b left s
      = .ok (s + (line.takeWhile (· ∉ LSH_TOK_DELIM)).length) := by
  induction line generalizing s with
  | nil =>
      rintro (_ | left) hleft
      · omega
      · have hnul : b s = 0 := h.nul
        rw [scanToken, hnul, if_pos (Or.inr rfl)]
        rfl
  | cons c line ih =>
      rintro (_ | left) hleft
      · omega
      · rw [scanToken, h.head]
        by_cases hc : c ∈ LSH_TOK_DELIM
        · rw [if_pos (Or.inl hc), List.takeWhile_cons_of_neg (by simpa using hc)]
          rfl
        · have hstop : ¬(c ∈ LSH_TOK_DELIM ∨ c = 0) := by
            rintro (hdelim | hzero)
            · exact hc hdelim
            · exact h.nonzero c List.mem_cons_self hzero
          rw [if_neg hstop, ih h.tail left (by rw [List.length_cons] at hleft; omega),
            List.takeWhile_cons_of_pos (by simpa using hc), List.length_cons, Nat.add_assoc, Nat.add_comm 1]

/-- `strtok` with a null pointer goes on with these words, from `lim` on in the buffer. -/
def GoesOn (b : ℕ → UInt8) (last : Option ℕ) (lim : ℕ) (ws : List (List UInt8)) : Prop :=
  (last = none ∧ ws = []) ∨ ∃ s line, last = some s ∧ lim ≤ s ∧ StringAt b s line ∧
    s + line.length < CRT_BUFFER ∧ words line = ws

/-- The token is the first of these words, and `strtok` goes on with the others. -/
def TokenOf (b : ℕ → UInt8) (tok last : Option ℕ) (lim : ℕ) : List (List UInt8) → Prop
  | [] => tok = none
  | w :: ws => ∃ t, tok = some t ∧ lim ≤ t ∧ StringAt b t w ∧ GoesOn b last (t + w.length + 1) ws

/-- **What `strtok` does**: it returns the next word, and leaves the buffer below `lim` as it is. -/
lemma strtok_spec {last : Option ℕ} {lim : ℕ} {ws : List (List UInt8)} (h : GoesOn b last lim ws) :
    ∃ r, strtok LSH_TOK_DELIM b none last = .ok r ∧ TokenOf r.buffer r.tok r.last lim ws ∧
      ∀ i < lim, r.buffer i = b i := by
  rcases h with ⟨rfl, rfl⟩ | ⟨s, line, rfl, hlim, hstring, hle, rfl⟩
  · exact ⟨⟨none, none, b⟩, rfl, rfl, fun _ _ => rfl⟩
  have hskip := skipDelimiters_spec hstring (CRT_BUFFER - s) (by omega)
  have hsplit := List.takeWhile_append_dropWhile (p := (· ∈ LSH_TOK_DELIM)) (l := line)
  generalize hd : line.takeWhile (· ∈ LSH_TOK_DELIM) = d at hskip hsplit
  generalize hr : line.dropWhile (· ∈ LSH_TOK_DELIM) = rest at hsplit
  subst hsplit
  have hrest := hstring.suffix
  rw [List.length_append] at hle
  rw [words_eq, hr]
  have hcall : strtok LSH_TOK_DELIM b none (some s) = (do
      let tok ← skipDelimiters LSH_TOK_DELIM b (CRT_BUFFER - s) s
      if b tok = 0 then .ok ⟨none, none, b⟩
      else do
        let w ← scanToken LSH_TOK_DELIM b (CRT_BUFFER - (tok + 1)) (tok + 1)
        if b w = 0 then .ok ⟨some tok, none, b⟩
        else .ok ⟨some tok, some (w + 1), Function.update b w 0⟩) := rfl
  rw [hcall, hskip, ok_bind]
  cases rest with
  | nil =>
      have hnul : b (s + d.length) = 0 := hrest.nul
      rw [if_pos hnul]
      exact ⟨_, rfl, rfl, fun _ _ => rfl⟩
  | cons c rest =>
      have hc : c ∉ LSH_TOK_DELIM := by
        have := List.head_dropWhile_not (p := (· ∈ LSH_TOK_DELIM)) (l := d ++ c :: rest) (by rw [hr]; simp)
        simp only [hr, List.head_cons] at this
        simpa using this
      have hne : b (s + d.length) ≠ 0 := by
        rw [hrest.head]
        exact hrest.nonzero c List.mem_cons_self
      rw [List.length_cons] at hle
      rw [if_neg hne, scanToken_spec hrest.tail _ (by omega), ok_bind]
      have hword := List.takeWhile_append_dropWhile (p := (· ∉ LSH_TOK_DELIM)) (l := rest)
      generalize hw : rest.takeWhile (· ∉ LSH_TOK_DELIM) = w at hword ⊢
      generalize htl : rest.dropWhile (· ∉ LSH_TOK_DELIM) = tl at hword
      subst hword
      have hrun : ∀ a ∈ c :: w, a ∉ LSH_TOK_DELIM := by
        rintro a ha
        rcases List.mem_cons.1 ha with rfl | ha
        · exact hc
        · rw [← hw] at ha
          simpa using List.mem_takeWhile_imp ha
      rw [← List.cons_append] at hrest
      have htail : StringAt b (s + d.length + 1 + w.length) tl := by
        have := hrest.suffix
        rwa [List.length_cons, Nat.add_comm w.length, ← Nat.add_assoc] at this
      rw [← List.cons_append]
      have hlen : (c :: w).length = w.length + 1 := rfl
      cases tl with
      | nil =>
          have hnul : b (s + d.length + 1 + w.length) = 0 := htail.nul
          rw [List.append_nil] at hrest
          rw [if_pos hnul, List.append_nil, words_single hrun (List.cons_ne_nil _ _)]
          exact ⟨_, rfl, ⟨_, rfl, by omega, hrest, Or.inl ⟨rfl, rfl⟩⟩, fun _ _ => rfl⟩
      | cons c₂ tl =>
          have hc₂ : c₂ ∈ LSH_TOK_DELIM := by
            have := List.head_dropWhile_not (p := (· ∉ LSH_TOK_DELIM)) (l := w ++ c₂ :: tl)
              (by rw [htl]; simp)
            simp only [htl, List.head_cons] at this
            simpa using this
          have hsep : b (s + d.length + 1 + w.length) ≠ 0 := by
            rw [htail.head]
            exact htail.nonzero c₂ List.mem_cons_self
          rw [List.length_append, List.length_cons] at hle
          rw [if_neg hsep, words_append hrun (List.cons_ne_nil _ _) hc₂]
          refine ⟨_, rfl, ⟨_, rfl, by omega, ⟨fun i hi => ?_, ?_, ?_⟩, Or.inr ⟨_, tl, rfl, ?_, ?_, ?_, rfl⟩⟩,
            fun i hi => Function.update_of_ne (by omega) _ _⟩
          · have hchar := hrest.chars i (by rw [List.length_append]; omega)
            rw [List.getD_append _ _ _ _ hi] at hchar
            dsimp only
            rw [Function.update_of_ne (by omega)]
            exact hchar
          · intro a ha
            exact hrest.nonzero a (List.mem_append_left _ ha)
          · dsimp only
            rw [hlen, show s + d.length + (w.length + 1) = s + d.length + 1 + w.length by omega,
              Function.update_self]
          · omega
          · exact htail.tail.congr fun i hi => Function.update_of_ne (by omega) _ _
          · omega

/-! ## The loop over the tokens -/

/-- `main` is called with the words behind those that the list has already. -/
structure Passes (v : TokenLoop) (lim : ℕ) (ws : List (List UInt8)) (call : MainCall) : Prop where
  argc : call.argc = v.index + ws.length
  older : ∀ i < v.index, call.argv i = v.tokenList i
  below : ∀ i < lim, call.buffer i = v.buffer i
  words : ∀ k < ws.length, ∃ p, call.argv (v.index + k) = some p ∧ StringAt call.buffer p (ws.getD k [])
  null : call.argv call.argc = none

/-- **The words go into the list**, if there is room for them and the null pointer. -/
lemma tokens_pass (ws : List (List UInt8)) : ∀ (v : TokenLoop) (lim : ℕ),
    TokenOf v.buffer v.token v.last lim ws → v.index + ws.length < TOKENLIST_MAX_DEFAULT →
    ∃ call, Loop.Ends tokenTurn v (.ok call) ∧ Passes v lim ws call := by
  induction ws with
  | nil =>
      intro v lim htoken hroom
      have hturn : tokenTurn v
          = .ok (.inl ⟨v.index, Function.update v.tokenList v.index none, v.buffer⟩) := by
        rw [tokenTurn, show v.token = none from htoken]
        dsimp only
        rw [storeToken, if_pos (by simpa using hroom), ok_bind]
      refine ⟨_, (Loop.ends_exit hturn).2 rfl, rfl, fun i hi => ?_, fun _ _ => rfl, fun k hk => ?_, ?_⟩
      · exact Function.update_of_ne hi.ne _ _
      · exact absurd hk (Nat.not_lt_zero k)
      · exact Function.update_self ..
  | cons w ws ih =>
      rintro v lim ⟨t, htoken, hlim, hstring, hgoes⟩ hroom
      rw [List.length_cons] at hroom
      obtain ⟨r, hr, hnext, hbelow⟩ := strtok_spec hgoes
      have hturn : tokenTurn v = .ok (.inr ⟨Function.update v.tokenList v.index (some t), r.tok,
          v.index + 1, r.last, r.buffer⟩) := by
        rw [tokenTurn, htoken]
        dsimp only
        rw [storeToken, if_pos (by omega), ok_bind, hr, ok_bind]
      obtain ⟨call, hends, hpasses⟩ := ih ⟨Function.update v.tokenList v.index (some t), r.tok,
        v.index + 1, r.last, r.buffer⟩ _ hnext (by dsimp only; omega)
      have hlater := hpasses.below
      refine ⟨call, (Loop.ends_turn hturn).2 hends, ?_, fun i hi => ?_, fun i hi => ?_, fun k hk => ?_,
        hpasses.null⟩
      · rw [hpasses.argc, List.length_cons]
        dsimp only
        omega
      · rw [hpasses.older i (by dsimp only; omega)]
        exact Function.update_of_ne hi.ne _ _
      · rw [hlater i (by omega)]
        exact hbelow i (by omega)
      · cases k with
        | zero =>
            refine ⟨t, ?_, ?_⟩
            · rw [Nat.add_zero, hpasses.older _ (Nat.lt_succ_self _)]
              exact Function.update_self ..
            · exact hstring.congr fun i hi => (hlater _ (by omega)).trans (hbelow _ (by omega))
        | succ k =>
            obtain ⟨p, hp, hword⟩ := hpasses.words k (by rw [List.length_cons] at hk; omega)
            refine ⟨p, ?_, hword⟩
            rw [← hp]
            dsimp only
            rw [Nat.add_right_comm, Nat.add_assoc]

/-- **A word or the null pointer goes behind the list**, if there is no room for them. -/
lemma tokens_overflow (ws : List (List UInt8)) : ∀ (v : TokenLoop) (lim : ℕ),
    TokenOf v.buffer v.token v.last lim ws → v.index ≤ TOKENLIST_MAX_DEFAULT →
    TOKENLIST_MAX_DEFAULT ≤ v.index + ws.length → Loop.Ends tokenTurn v (.error .badPointer) := by
  induction ws with
  | nil =>
      intro v lim htoken _ hfull
      refine (Loop.ends_error ?_).2 rfl
      rw [tokenTurn, show v.token = none from htoken]
      dsimp only
      rw [storeToken, if_neg (by simpa using hfull), error_bind]
  | cons w ws ih =>
      rintro v lim ⟨t, htoken, hlim, hstring, hgoes⟩ hindex hfull
      rw [List.length_cons] at hfull
      rcases hindex.eq_or_lt with hlast | hroom
      · refine (Loop.ends_error ?_).2 rfl
        rw [tokenTurn, htoken]
        dsimp only
        rw [storeToken, if_neg (by omega), error_bind]
      · obtain ⟨r, hr, hnext, -⟩ := strtok_spec hgoes
        have hturn : tokenTurn v = .ok (.inr ⟨Function.update v.tokenList v.index (some t), r.tok,
            v.index + 1, r.last, r.buffer⟩) := by
          rw [tokenTurn, htoken]
          dsimp only
          rw [storeToken, if_pos hroom, ok_bind, hr, ok_bind]
        exact (Loop.ends_turn hturn).2
          (ih ⟨_, r.tok, v.index + 1, r.last, r.buffer⟩ _ hnext hroom (by dsimp only; omega))

/-! ## The whole command line -/

/-- The line stands at the start of the buffer. -/
lemma commandLine_string (bytes : List UInt8) : StringAt (commandLine bytes) 0 (lineBeforeNul bytes) := by
  have hsplit := List.takeWhile_append_dropWhile (p := (· ≠ 0)) (l := bytes.take 511)
  have hlength := congrArg List.length hsplit
  rw [List.length_append, List.length_take] at hlength
  have htake : ∀ i < 511, bytes.getD i 0 = (bytes.take 511).getD i 0 := by
    intro i hi
    rw [List.getD_eq_getElem?_getD, List.getD_eq_getElem?_getD, List.getElem?_take_of_lt hi]
  constructor
  case chars =>
    intro i hi
    have hlt : i < ((bytes.take 511).takeWhile (· ≠ 0)).length := hi
    rw [Nat.zero_add, commandLine, if_neg (by omega), htake i (by omega), ← hsplit,
      List.getD_append _ _ _ _ hlt]
    rfl
  case nonzero =>
    intro c hc
    simpa using List.mem_takeWhile_imp hc
  case nul =>
    rw [Nat.zero_add, commandLine]
    split_ifs with hlast
    · rfl
    · have hlt : (lineBeforeNul bytes).length = ((bytes.take 511).takeWhile (· ≠ 0)).length := rfl
      rw [htake _ (by omega), hlt]
      cases hrest : (bytes.take 511).dropWhile (· ≠ 0) with
      | nil =>
          rw [List.getD_eq_default]
          rw [hrest, List.length_nil] at hlength
          rw [List.length_take]
          omega
      | cons c rest =>
          have hzero := List.head_dropWhile_not (p := (· ≠ 0)) (l := bytes.take 511) (by rw [hrest]; simp)
          simp only [hrest, List.head_cons] at hzero
          rw [hrest] at hsplit
          nth_rewrite 1 [← hsplit]
          rw [List.getD_append_right _ _ _ _ le_rfl, Nat.sub_self, List.getD_cons_zero]
          simpa using hzero

/-- The loop as `crt0` enters it. -/
lemma crt0_enters (r : StdinRead) (tokenList : ℕ → Option ℕ) :
    ∃ v : TokenLoop, v.index = 0 ∧ TokenOf v.buffer v.token v.last 0 (words (lineBeforeNul r.bytes)) ∧
      ∀ turns, crt0 r.bytes tokenList turns = Loop.within tokenTurn turns v := by
  have hstring := commandLine_string r.bytes
  have hle : (lineBeforeNul r.bytes).length ≤ 511 :=
    (List.takeWhile_prefix _).length_le.trans (List.length_take_le _ _)
  have hgoes : GoesOn (commandLine r.bytes) (some 0) 0 (words (lineBeforeNul r.bytes)) :=
    Or.inr ⟨0, _, rfl, le_rfl, hstring, by rw [CRT_BUFFER]; omega, rfl⟩
  obtain ⟨t, ht, htoken, -⟩ := strtok_spec hgoes
  refine ⟨⟨Function.update tokenList 0 t.tok, t.tok, 0, t.last, t.buffer⟩, rfl, htoken, fun turns => ?_⟩
  have hfirst : strtok LSH_TOK_DELIM (commandLine r.bytes) (some 0) none = .ok t := ht
  rw [crt0, hfirst]
  rfl

/-- **The command line, exactly**: whatever `read` does, `main` is called with the words of the line if and
only if there are fewer than 80 of them. -/
theorem crt0_calls_iff (r : StdinRead) (tokenList : ℕ → Option ℕ) :
    (∃ turns call, crt0 r.bytes tokenList turns = some (.ok call) ∧ PassesWords (lineBeforeNul r.bytes) call) ↔
      (words (lineBeforeNul r.bytes)).length < TOKENLIST_MAX_DEFAULT := by
  obtain ⟨v, hindex, htoken, hwithin⟩ := crt0_enters r tokenList
  constructor
  · rintro ⟨turns, call, hcall, -⟩
    by_contra hfull
    have hover := tokens_overflow _ v 0 htoken (by omega) (by omega)
    rw [hwithin] at hcall
    have hends : Loop.Ends tokenTurn v (.ok call) := ⟨turns, hcall⟩
    exact absurd (hends.unique hover) (by simp)
  · intro hroom
    obtain ⟨call, ⟨turns, hends⟩, hpasses⟩ := tokens_pass _ v 0 htoken (by omega)
    have hargc := hpasses.argc
    rw [hindex, Nat.zero_add] at hargc
    refine ⟨turns, call, (hwithin turns).trans hends, hargc, fun i hi => ?_, hpasses.null⟩
    have hword := hpasses.words i (by omega)
    rwa [hindex, Nat.zero_add] at hword

lemma words_letters (n : ℕ) :
    words (List.replicate n [97, 32]).flatten = List.replicate n [(97 : UInt8)] := by
  induction n with
  | zero => rfl
  | succ n ih =>
      rw [List.replicate_succ, List.flatten_cons, List.replicate_succ, ← ih]
      exact words_append (w := [97]) (by decide +kernel) (by decide +kernel) (by decide +kernel) _

lemma letters_length (n : ℕ) : (List.replicate n [(97 : UInt8), 32]).flatten.length = n * 2 := by
  rw [List.length_flatten, List.map_replicate, List.sum_replicate, smul_eq_mul]
  rfl

/-- Eighty letters with a blank behind each. -/
def eightyLetters : StdinRead :=
  .reads (List.replicate 80 [97, 32]).flatten (by rw [letters_length]; omega) (by rw [letters_length]; omega)

lemma eightyLetters_line : lineBeforeNul eightyLetters.bytes = (List.replicate 80 [97, 32]).flatten := by
  have htake : (List.replicate 80 [(97 : UInt8), 32]).flatten.take 511 = (List.replicate 80 [97, 32]).flatten :=
    List.take_of_length_le (by rw [letters_length]; omega)
  have hall : ∀ c ∈ (List.replicate 80 [(97 : UInt8), 32]).flatten, c ≠ 0 := by
    intro c hc
    simp only [List.mem_flatten, List.mem_replicate] at hc
    obtain ⟨l, ⟨-, rfl⟩, hc⟩ := hc
    revert c
    decide +kernel
  change ((List.replicate 80 [(97 : UInt8), 32]).flatten.take 511).takeWhile (· ≠ 0) = _
  rw [htake, List.takeWhile_eq_self_iff]
  exact fun c hc => decide_eq_true (hall c hc)

/-- Eighty words have no room for the null pointer. -/
theorem crt0_fails : ¬∀ (r : StdinRead) (tokenList : ℕ → Option ℕ), ∃ turns call,
    crt0 r.bytes tokenList turns = some (.ok call) ∧ PassesWords (lineBeforeNul r.bytes) call := by
  intro h
  obtain ⟨turns, call, hcall, -⟩ := h eightyLetters fun _ => none
  obtain ⟨v, hindex, htoken, hwithin⟩ := crt0_enters eightyLetters fun _ => none
  rw [eightyLetters_line, words_letters] at htoken
  have hover := tokens_overflow _ v 0 htoken (by omega) 
    (by rw [List.length_replicate, TOKENLIST_MAX_DEFAULT]; omega)
  rw [hwithin] at hcall
  have hends : Loop.Ends tokenTurn v (.ok call) := ⟨turns, hcall⟩
  exact absurd (hends.unique hover) (by simp)

end Gramado.Libc

import Mathlib.Data.List.GetD
import Gramado.Gws.RequestPacket

/-!
# The client library and the display server agree on requests

What the server finds in the packet of a call are the arguments of the call, if the string has no
`%` but in pairs and, with its `NUL`, fits into the local buffer that `sprintf` writes to.
-/

namespace Gramado.Gws

open Libc

/-! ## Longs and strings of a message -/

section

variable {b b' : Message} {fields : List ℕ} {bytes s : List UInt8} {off k n v : ℕ}

@[simp] lemma length_longBytes : (longBytes v).length = 8 := by
  simp [longBytes]

@[simp] lemma length_flatMap_longBytes : (fields.flatMap longBytes).length = 8 * fields.length := by
  simp [List.length_flatMap, Nat.mul_comm]

/-- The first `k` digits. -/
lemma ofDigits_range (v k : ℕ) :
    Nat.ofDigits 256 ((List.range k).map fun j => v / 256 ^ j % 256) = v % 256 ^ k := by
  induction k with
  | zero => simp [Nat.mod_one]
  | succ k ih =>
      rw [List.range_succ, List.map_append, Nat.ofDigits_append, ih, Nat.mod_pow_succ]
      simp

lemma ofDigits_longBytes (v : ℕ) : Nat.ofDigits 256 ((longBytes v).map UInt8.toNat) = v % 2 ^ 64 := by
  rw [longBytes, List.map_map]
  have hdigits : (UInt8.toNat ∘ fun j => UInt8.ofNat (v / 256 ^ j)) = fun j => v / 256 ^ j % 256 := by
    funext j
    exact UInt8.toNat_ofNat'
  have hrange : 256 ^ 8 = 2 ^ 64 := by decide
  rw [hdigits, ofDigits_range, hrange]

/-- A byte of the longs. -/
lemma flatMap_longBytes_getD {j : ℕ} (hk : k < fields.length) (hj : j < 8) (z : UInt8) :
    (fields.flatMap longBytes).getD (8 * k + j) z = UInt8.ofNat (fields[k] / 256 ^ j) := by
  induction fields generalizing k with
  | nil => exact absurd hk (Nat.not_lt_zero k)
  | cons v fields ih =>
      rw [List.flatMap_cons]
      cases k with
      | zero =>
          rw [List.getD_append _ _ _ _ (by rw [length_longBytes]; omega)]
          simp [longBytes, hj]
      | succ k =>
          rw [List.getD_append_right _ _ _ _ (by rw [length_longBytes]; omega), length_longBytes,
            show 8 * (k + 1) + j - 8 = 8 * k + j by omega, ih (Nat.lt_of_succ_lt_succ hk)]
          rfl

lemma putBytes_inside {i : ℕ} (h : putBytes off bytes b = .ok b') (hi : i < bytes.length) :
    b' (off + i) = bytes[i] := by
  rw [putBytes] at h
  split_ifs at h
  cases h
  simp [hi]

lemma putBytes_before {i : ℕ} (h : putBytes off bytes b = .ok b') (hi : i < off) : b' i = b i := by
  rw [putBytes] at h
  split_ifs at h
  cases h
  exact if_neg (Nat.not_le.2 hi)

lemma putBytes_behind {i : ℕ} (h : putBytes off bytes b = .ok b') (hi : off + bytes.length ≤ i) :
    b' i = b i := by
  rw [putBytes] at h
  split_ifs at h
  cases h
  dsimp only
  rw [if_pos (by omega), List.getD_eq_default _ _ (by omega)]

/-- A long that was written is read. -/
lemma getLong_putLongs (h : putLongs fields b = .ok b') (hk : k < fields.length) :
    getLong b' k = fields.getD k 0 % 2 ^ 64 := by
  rw [getLong, ← ofDigits_longBytes, List.getD_eq_getElem _ _ hk]
  congr 2
  refine List.map_congr_left fun j hj => ?_
  have hj : j < 8 := List.mem_range.1 hj
  have hi : 8 * k + j < (fields.flatMap longBytes).length := by
    rw [length_flatMap_longBytes]
    omega
  have hbyte := putBytes_inside h hi
  rw [Nat.zero_add] at hbyte
  rw [hbyte, ← flatMap_longBytes_getD hk hj 0, List.getD_eq_getElem _ _ hi]

/-- Bytes that are written behind a long leave it alone. -/
lemma getLong_putBytes (h : putBytes off bytes b = .ok b') (hk : 8 * k + 8 ≤ off) :
    getLong b' k = getLong b k := by
  have hbytes : getBytes b' (8 * k) 8 = getBytes b (8 * k) 8 :=
    bytesOf_congr.2 fun j hj => putBytes_before h (by omega)
  rw [getLong, getLong, hbytes]

/-- Bytes that were written are read. -/
lemma getBytes_putBytes (h : putBytes off bytes b = .ok b') (hn : n ≤ bytes.length) :
    getBytes b' off n = bytes.take n := by
  refine List.ext_getElem (by simp [getBytes, hn]) fun i hi _ => ?_
  rw [getBytes, length_bytesOf] at hi
  rw [List.getElem_take, ← putBytes_inside h (by omega : i < bytes.length)]
  simp [getBytes, bytesOf]

/-- The first bytes of some bytes. -/
lemma take_getBytes {m : ℕ} (hn : n ≤ m) : (getBytes b off m).take n = getBytes b off n := by
  obtain ⟨r, rfl⟩ := Nat.exists_eq_add_of_le hn
  rw [getBytes, bytesOf_add, List.take_append_of_le_length (by simp), List.take_of_length_le (by simp)]
  rfl

lemma cString_append (hs : 0 ∉ s) (rest : List UInt8) : cString (s ++ 0 :: rest) = s := by
  induction s with
  | nil => rfl
  | cons c s ih =>
      have hc : c ≠ 0 := fun h => hs (by simp [h])
      rw [cString, List.cons_append, List.takeWhile_cons_of_pos (by simpa using hc)]
      exact congrArg (c :: ·) (ih fun h => hs (List.mem_cons_of_mem c h))

/-- **A string that is written with its `NUL`** is read. -/
lemma cString_putBytes {m : ℕ} (hs : 0 ∉ s) (hm : s.length < m)
    (h : putBytes off (s ++ [0]) b = .ok b') : cString (getBytes b' off m) = s := by
  have hfront : getBytes b' off (s.length + 1) = s ++ [0] := by
    rw [getBytes_putBytes h (by simp), List.take_of_length_le (by simp)]
  obtain ⟨r, rfl⟩ := Nat.exists_eq_add_of_le hm
  rw [getBytes, bytesOf_add, ← getBytes, hfront, List.append_assoc]
  exact cString_append hs _

/-! ## The local buffer -/

/-- A paired string that fits, with its `NUL`, is copied. -/
lemma localString_paired {c : Client} {str : CString} (hpaired : Paired str.bytes)
    (hlength : str.bytes.length ≤ 255) :
    ∃ l, c.localString str = .ok l ∧ l.take str.bytes.length = str.bytes := by
  rw [Client.localString, sprintf, kinguioVsprintf_paired hpaired str.noNul, ok_bind, ok_bind,
    if_pos (by rw [List.length_append, List.length_singleton]; omega)]
  refine ⟨_, rfl, ?_⟩
  rw [List.append_assoc, List.take_left]

/-- A paired string that does not fit is written over the end of the buffer. -/
lemma localString_long {c : Client} {str : CString} (hpaired : Paired str.bytes)
    (hlength : 255 < str.bytes.length) : c.localString str = .error .badPointer := by
  rw [Client.localString, sprintf, kinguioVsprintf_paired hpaired str.noNul, ok_bind, ok_bind,
    if_neg (by rw [List.length_append, List.length_singleton]; omega)]

/-- A client with letters in its registers and behind the string. -/
def lettersClient : Client where
  va := lettersVa
  after := List.replicate 256 97 ++ [0]
  pid := 0
  tid := 0
  buffer := clearMessage
  sent := 512

/-- A string that is not paired does not come out as it is. -/
lemma localString_unpaired {str : CString} {l : List UInt8} (hpaired : ¬Paired str.bytes)
    (h : lettersClient.localString str = .ok l) : l.take str.bytes.length ≠ str.bytes := by
  intro htake
  rw [Client.localString, sprintf] at h
  obtain ⟨out', hprinted, h⟩ := bind_eq_ok h
  obtain ⟨out, hout, hout'⟩ := bind_eq_ok hprinted
  cases hout'
  split_ifs at h with hlength
  cases h
  rcases kinguioVsprintf_unpaired hpaired str.noNul hout with hprefix | hlong
  · rw [List.append_assoc] at htake
    by_cases hle : str.bytes.length ≤ out.length
    · rw [List.take_append_of_le_length hle] at htake
      exact hprefix (List.prefix_iff_eq_take.2 htake.symm)
    · -- the `NUL` of the buffer would be a byte of the string
      refine str.noNul ?_
      rw [← htake]
      refine List.mem_take_iff_getElem.2 ⟨out.length, by simp; omega, ?_⟩
      simp
  · simp only [List.length_append, List.length_singleton] at hlength
    omega

end

/-! ## Calls -/

/-- A request of the client library. -/
inductive Call where
  | createWindow (a : CreateCall)
  | drawText (a : TextCall)
  | drawChar (a : CharCall)

/-- The coordinates and the numbers of windows are below their limits. -/
def Call.InRange : Call → Prop
  | .createWindow a =>
      (a.left.toNat < 2 ^ 16 ∧ a.top.toNat < 2 ^ 16) ∧
        (a.width.toNat < 2 ^ 16 ∧ a.height.toNat < 2 ^ 16) ∧ a.parent.toNat < WINDOW_COUNT_MAX
  | .drawText a =>
      (a.left.toNat < 2 ^ 16 ∧ a.top.toNat < 2 ^ 16) ∧ 0 ≤ a.windowId ∧ a.windowId < WINDOW_COUNT_MAX
  | .drawChar a =>
      (a.left.toNat < 2 ^ 16 ∧ a.top.toNat < 2 ^ 16) ∧ 0 ≤ a.windowId ∧ a.windowId < WINDOW_COUNT_MAX

/-- The packet that the library sends. -/
def Call.packet (c : Client) : Call → Except Abort (Option Message)
  | .createWindow a => createwindowRequest c a
  | .drawText a => drawtextRequest c a
  | .drawChar a => drawcharRequest c a

/-- The server finds the arguments in the packet; of the colour of a window it takes 24 bits. -/
def Call.Decodes (c : Client) (b : Message) : Call → Prop
  | .createWindow a => decodeCreateWindow b =
      { x := a.left.toNat
        y := a.top.toNat
        w := a.width.toNat
        h := a.height.toNat
        color := a.bgColor.toNat % 2 ^ 24
        type := a.type.toNat
        pw := a.parent.toNat
        style := a.style.toNat
        clientPid := toUlong c.pid % 2 ^ 16
        clientTid := toUlong c.tid % 2 ^ 16
        data := a.name.bytes }
  | .drawText a => decodeDrawText b =
      { windowId := a.windowId
        x := a.left.toNat
        y := a.top.toNat
        color := a.color.toNat
        buf := a.string.bytes }
  | .drawChar a => decodeDrawChar b =
      { windowId := a.windowId
        x := a.left.toNat
        y := a.top.toNat
        color := a.color.toNat
        char := a.ch.toNat }

/-- Whatever the client finds, the library writes inside its buffers, and what it sends is decoded
to what was passed. -/
def Call.Agrees (call : Call) : Prop :=
  ∀ c : Client, ∃ sent, call.packet c = .ok sent ∧ ∀ b ∈ sent, call.Decodes c b

/-- The library rejects the call, or the call keeps to what the packet can hold: every `%` of the
string stands before a second one, the string of a text leaves room for its `NUL`, the type has 16
bits and the char has 8. -/
def Call.Faithful : Call → Prop
  | .createWindow a =>
      (a.fd < 0 ∨ a.name.bytes = [] ∨ 250 < a.name.bytes.length) ∨
        Paired a.name.bytes ∧ a.type.toNat < 2 ^ 16
  | .drawText a =>
      (a.fd < 0 ∨ a.string.bytes = [] ∨ 256 < a.string.bytes.length) ∨
        Paired a.string.bytes ∧ a.string.bytes.length ≤ 255
  | .drawChar a => a.fd < 0 ∨ a.ch.toNat < 2 ^ 8

section

variable {c : Client} {b b' : Message} {fields : List ℕ} {k m : ℕ} {str : CString}

/-- The longs of a packet are written. -/
lemma putLongs_ok (fields : List ℕ) (b : Message) (hlength : fields.length ≤ 64) :
    ∃ b', putLongs fields b = .ok b' := by
  rw [putLongs, putBytes, if_pos (by rw [length_flatMap_longBytes]; omega)]
  exact ⟨_, rfl⟩

/-- A string is written behind the longs. -/
lemma getLong_putString {j : ℕ} (h : c.putString k str b = .ok b') (hj : j < k) :
    getLong b' j = getLong b j := by
  rw [Client.putString] at h
  obtain ⟨l, -, h⟩ := bind_eq_ok h
  exact getLong_putBytes h (by omega)

/-- **A faithful string** is written behind the longs, and read. -/
lemma putString_faithful (b : Message) (hk : 8 * k + 256 ≤ 512) (hpaired : Paired str.bytes)
    (hlength : str.bytes.length ≤ 255) :
    ∃ b', c.putString k str b = .ok b' ∧
      (str.bytes.length < m → cString (getBytes b' (8 * k) m) = str.bytes) := by
  obtain ⟨l, hl, htake⟩ := localString_paired (c := c) hpaired hlength
  have hfits : 8 * k + (str.bytes ++ [0]).length ≤ 512 := by
    rw [List.length_append, List.length_singleton]
    omega
  have hput : ∃ b', putBytes (8 * k) (str.bytes ++ [0]) b = .ok b' := by
    rw [putBytes, if_pos hfits]
    exact ⟨_, rfl⟩
  obtain ⟨b', hb'⟩ := hput
  refine ⟨b', ?_, fun hm => cString_putBytes str.noNul hm hb'⟩
  rw [Client.putString, hl, ok_bind, htake, hb']

lemma localString_length {l : List UInt8} (h : c.localString str = .ok l) : l.length = 256 := by
  rw [Client.localString] at h
  obtain ⟨out, -, h⟩ := bind_eq_ok h
  split_ifs at h with hle
  cases h
  rw [List.length_append, List.length_replicate]
  omega

/-- A string that is read as it was passed came out of `sprintf` as it was. -/
lemma putString_unpaired (hpaired : ¬Paired str.bytes)
    (hput : lettersClient.putString k str b = .ok b') (hle : str.bytes.length ≤ 256)
    (hm : str.bytes.length ≤ m) : cString (getBytes b' (8 * k) m) ≠ str.bytes := by
  intro hread
  rw [Client.putString] at hput
  obtain ⟨l, hl, hput⟩ := bind_eq_ok hput
  have hprefix : str.bytes <+: getBytes b' (8 * k) m := by
    rw [← hread]
    exact List.takeWhile_prefix _
  have hfront : getBytes b' (8 * k) str.bytes.length = str.bytes := by
    rw [← take_getBytes hm]
    exact (List.prefix_iff_eq_take.1 hprefix).symm
  have hlength : str.bytes.length ≤ (l.take str.bytes.length).length := by
    rw [List.length_take, localString_length hl]
    omega
  rw [getBytes_putBytes hput (by rw [List.length_append]; omega),
    List.take_append_of_le_length hlength, List.take_take, min_self] at hfront
  exact localString_unpaired hpaired hl hfront

lemma mem_send {b₂ : Message} (h : b₂ ∈ c.send b) : b₂ = b := by
  rw [Client.send] at h
  split_ifs at h
  · cases h
  · exact (Option.some.inj h).symm

lemma toUlong_id {x : ℤ} (h₀ : 0 ≤ x) (h : x < WINDOW_COUNT_MAX) :
    toUlong x % 2 ^ 64 = toUlong x ∧ (toUlong x : ℤ) = x ∧ toUlong x < 2 ^ 16 := by
  have hmax : (WINDOW_COUNT_MAX : ℤ) = 1024 := rfl
  rw [toUlong]
  omega

/-! ## Creating a window -/

/-- The library rejects the call. -/
def CreateCall.Rejected (a : CreateCall) : Prop :=
  a.fd < 0 ∨ a.name.bytes = [] ∨ 250 < a.name.bytes.length

lemma createwindowRequest_rejected {a : CreateCall} (h : a.Rejected) :
    createwindowRequest c a = .ok none := by
  rw [createwindowRequest]
  rcases h with hfd | hname | hlength
  · rw [if_pos hfd]
  · rw [if_pos hname, ite_self]
  · rw [if_pos hlength, ite_self, ite_self]

lemma createwindowRequest_accepted {a : CreateCall} (h : ¬a.Rejected) :
    createwindowRequest c a = (do
      let b ← putLongs (a.longs c) clearMessage
      let b ← c.putString 14 a.name b
      .ok (c.send b)) := by
  rw [CreateCall.Rejected, not_or, not_or] at h
  obtain ⟨hfd, hname, hlength⟩ := h
  rw [createwindowRequest, if_neg hfd, if_neg hname, if_neg hlength]

/-- What the server finds in a packet with these longs and this string. -/
lemma decodeCreateWindow_eq {a : CreateCall} (hrange : (Call.createWindow a).InRange)
    (hlongs : ∀ j < 14, getLong b j = (a.longs c).getD j 0 % 2 ^ 64) :
    decodeCreateWindow b =
      { x := a.left.toNat
        y := a.top.toNat
        w := a.width.toNat
        h := a.height.toNat
        color := a.bgColor.toNat % 2 ^ 24
        type := a.type.toNat % 2 ^ 16
        pw := a.parent.toNat
        style := a.style.toNat
        clientPid := toUlong c.pid % 2 ^ 16
        clientTid := toUlong c.tid % 2 ^ 16
        data := cString (getBytes b (8 * 14) 255) } := by
  obtain ⟨⟨hleft, htop⟩, ⟨hwidth, hheight⟩, hparent⟩ := hrange
  have hparent' : a.parent.toNat < 2 ^ 16 := hparent.trans (by decide)
  have hword : 2 ^ 16 ∣ 2 ^ 64 := Nat.pow_dvd_pow 2 (by decide)
  have hrgb : 2 ^ 24 ∣ 2 ^ 64 := Nat.pow_dvd_pow 2 (by decide)
  have h4 : getLong b 4 = a.left.toNat % 2 ^ 16 % 2 ^ 64 := hlongs 4 (by decide)
  have h5 : getLong b 5 = a.top.toNat % 2 ^ 16 % 2 ^ 64 := hlongs 5 (by decide)
  have h6 : getLong b 6 = a.width.toNat % 2 ^ 16 % 2 ^ 64 := hlongs 6 (by decide)
  have h7 : getLong b 7 = a.height.toNat % 2 ^ 16 % 2 ^ 64 := hlongs 7 (by decide)
  have h8 : getLong b 8 = a.bgColor.toNat % 2 ^ 64 := hlongs 8 (by decide)
  have h9 : getLong b 9 = a.type.toNat % 2 ^ 16 % 2 ^ 64 := hlongs 9 (by decide)
  have h10 : getLong b 10 = a.parent.toNat % 2 ^ 64 := hlongs 10 (by decide)
  have h11 : getLong b 11 = a.style.toNat % 2 ^ 64 := hlongs 11 (by decide)
  have h12 : getLong b 12 = toUlong c.pid % 2 ^ 64 := hlongs 12 (by decide)
  have h13 : getLong b 13 = toUlong c.tid % 2 ^ 64 := hlongs 13 (by decide)
  rw [decodeCreateWindow, h4, h5, h6, h7, h8, h9, h10, h11, h12, h13]
  simp only [-Nat.reducePow, Nat.mod_mod_of_dvd _ hword, Nat.mod_mod_of_dvd _ hrgb, Nat.mod_mod,
    Nat.mod_eq_of_lt hleft, Nat.mod_eq_of_lt htop, Nat.mod_eq_of_lt hwidth, Nat.mod_eq_of_lt hheight,
    Nat.mod_eq_of_lt hparent', Nat.mod_eq_of_lt a.style.toNat_lt]

theorem createWindow_agrees (a : CreateCall) (hrange : (Call.createWindow a).InRange) :
    (Call.createWindow a).Agrees ↔ (Call.createWindow a).Faithful := by
  by_cases hrejected : a.Rejected
  · refine iff_of_true (fun c => ⟨none, createwindowRequest_rejected hrejected, nofun⟩) ?_
    exact .inl hrejected
  have hlength : a.name.bytes.length ≤ 250 := by
    rw [CreateCall.Rejected] at hrejected
    omega
  have hfaithful : (Call.createWindow a).Faithful ↔ Paired a.name.bytes ∧ a.type.toNat < 2 ^ 16 :=
    or_iff_right hrejected
  rw [hfaithful]
  constructor
  · intro hagrees
    obtain ⟨sent, hpacket, hdecodes⟩ := hagrees lettersClient
    rw [Call.packet, createwindowRequest_accepted hrejected] at hpacket
    obtain ⟨b₁, h₁, hpacket⟩ := bind_eq_ok hpacket
    obtain ⟨b₂, h₂, hpacket⟩ := bind_eq_ok hpacket
    cases hpacket
    have hdecodes := hdecodes b₂ rfl
    rw [Call.Decodes, decodeCreateWindow_eq hrange fun j hj =>
      (getLong_putString h₂ hj).trans (getLong_putLongs h₁ hj), CreateRequest.mk.injEq] at hdecodes
    obtain ⟨-, -, -, -, -, htype, -, -, -, -, hdata⟩ := hdecodes
    refine ⟨?_, ?_⟩
    · by_contra hpaired
      exact putString_unpaired hpaired h₂ (by omega) (by omega) hdata
    · rw [← htype]
      exact Nat.mod_lt _ (by decide)
  · rintro ⟨hpaired, htype⟩ c
    obtain ⟨b₁, h₁⟩ := putLongs_ok (a.longs c) clearMessage (by decide : 14 ≤ 64)
    obtain ⟨b₂, h₂, hstring⟩ := putString_faithful (c := c) (k := 14) (m := 255) b₁
      (by decide) hpaired (by omega)
    refine ⟨c.send b₂, ?_, fun b hb => ?_⟩
    · rw [Call.packet, createwindowRequest_accepted hrejected, h₁, ok_bind, h₂, ok_bind]
    · rw [mem_send hb, Call.Decodes, decodeCreateWindow_eq hrange fun j hj =>
        (getLong_putString h₂ hj).trans (getLong_putLongs h₁ hj), hstring (by omega),
        Nat.mod_eq_of_lt htype]

/-! ## Drawing a text -/

/-- The library rejects the call. -/
def TextCall.Rejected (a : TextCall) : Prop :=
  a.fd < 0 ∨ a.string.bytes = [] ∨ 256 < a.string.bytes.length

lemma drawtextRequest_rejected {a : TextCall} (h : a.Rejected) :
    drawtextRequest c a = .ok none := by
  rw [drawtextRequest]
  rcases h with hfd | hname | hlength
  · rw [if_pos hfd]
  · rw [if_pos hname, ite_self]
  · rw [if_pos hlength, ite_self, ite_self]

lemma drawtextRequest_accepted {a : TextCall} (h : ¬a.Rejected) :
    drawtextRequest c a = (do
      let b ← putLongs a.longs clearMessage
      let b ← c.putString 8 a.string b
      .ok (c.send b)) := by
  rw [TextCall.Rejected, not_or, not_or] at h
  obtain ⟨hfd, hname, hlength⟩ := h
  rw [drawtextRequest, if_neg hfd, if_neg hname, if_neg hlength]

/-- What the server finds in a packet with these longs and this string. -/
lemma decodeDrawText_eq {a : TextCall} (hrange : (Call.drawText a).InRange)
    (hlongs : ∀ j < 8, getLong b j = a.longs.getD j 0 % 2 ^ 64) :
    decodeDrawText b =
      { windowId := a.windowId
        x := a.left.toNat
        y := a.top.toNat
        color := a.color.toNat
        buf := cString (getBytes b (8 * 8) 256) } := by
  obtain ⟨⟨hleft, htop⟩, hid₀, hid⟩ := hrange
  obtain ⟨hmod, hid, hsmall⟩ := toUlong_id hid₀ hid
  have hcolor := a.color.toNat_lt
  have h4 : getLong b 4 = toUlong a.windowId % 2 ^ 64 := hlongs 4 (by decide)
  have h5 : getLong b 5 = a.left.toNat % 2 ^ 64 := hlongs 5 (by decide)
  have h6 : getLong b 6 = a.top.toNat % 2 ^ 64 := hlongs 6 (by decide)
  have h7 : getLong b 7 = a.color.toNat % 2 ^ 64 := hlongs 7 (by decide)
  rw [decodeDrawText, h4, h5, h6, h7, hmod, Nat.mod_eq_of_lt hsmall, hid]
  simp only [TextRequest.mk.injEq, and_true, true_and]
  omega

theorem drawText_agrees (a : TextCall) (hrange : (Call.drawText a).InRange) :
    (Call.drawText a).Agrees ↔ (Call.drawText a).Faithful := by
  by_cases hrejected : a.Rejected
  · refine iff_of_true (fun c => ⟨none, drawtextRequest_rejected hrejected, nofun⟩) ?_
    exact .inl hrejected
  have hlength : a.string.bytes.length ≤ 256 := by
    rw [TextCall.Rejected] at hrejected
    omega
  have hfaithful : (Call.drawText a).Faithful ↔
      Paired a.string.bytes ∧ a.string.bytes.length ≤ 255 := or_iff_right hrejected
  rw [hfaithful]
  constructor
  · intro hagrees
    obtain ⟨sent, hpacket, hdecodes⟩ := hagrees lettersClient
    rw [Call.packet, drawtextRequest_accepted hrejected] at hpacket
    obtain ⟨b₁, h₁, hpacket⟩ := bind_eq_ok hpacket
    obtain ⟨b₂, h₂, hpacket⟩ := bind_eq_ok hpacket
    cases hpacket
    have hdecodes := hdecodes b₂ rfl
    rw [Call.Decodes, decodeDrawText_eq hrange fun j hj =>
      (getLong_putString h₂ hj).trans (getLong_putLongs h₁ hj), TextRequest.mk.injEq] at hdecodes
    obtain ⟨-, -, -, -, hbuf⟩ := hdecodes
    have hpaired : Paired a.string.bytes := by
      by_contra hpaired
      exact putString_unpaired hpaired h₂ hlength hlength hbuf
    refine ⟨hpaired, ?_⟩
    by_contra hlong
    rw [Client.putString, localString_long hpaired (not_le.1 hlong)] at h₂
    cases h₂
  · rintro ⟨hpaired, hshort⟩ c
    obtain ⟨b₁, h₁⟩ := putLongs_ok a.longs clearMessage (by decide : 8 ≤ 64)
    obtain ⟨b₂, h₂, hstring⟩ := putString_faithful (c := c) (k := 8) (m := 256) b₁ (by decide)
      hpaired hshort
    refine ⟨c.send b₂, ?_, fun b hb => ?_⟩
    · rw [Call.packet, drawtextRequest_accepted hrejected, h₁, ok_bind, h₂, ok_bind]
    · rw [mem_send hb, Call.Decodes, decodeDrawText_eq hrange fun j hj =>
        (getLong_putString h₂ hj).trans (getLong_putLongs h₁ hj), hstring (by omega)]

/-! ## Drawing a char -/

/-- What the server finds in a packet with these longs. -/
lemma decodeDrawChar_eq {a : CharCall} (hrange : (Call.drawChar a).InRange)
    (hlongs : ∀ j < 9, getLong b j = a.longs.getD j 0 % 2 ^ 64) :
    decodeDrawChar b =
      { windowId := a.windowId
        x := a.left.toNat
        y := a.top.toNat
        color := a.color.toNat
        char := a.ch.toNat % 2 ^ 8 } := by
  obtain ⟨⟨hleft, htop⟩, hid₀, hid⟩ := hrange
  obtain ⟨hmod, hid', hsmall⟩ := toUlong_id hid₀ hid
  have hcolor := a.color.toNat_lt
  have hmax : (WINDOW_COUNT_MAX : ℤ) = 1024 := rfl
  have hint : toInt32 a.windowId = a.windowId := toInt32_of_range (by omega) (by omega)
  have h4 : getLong b 4 = toUlong a.windowId % 2 ^ 64 := hlongs 4 (by decide)
  have h5 : getLong b 5 = a.left.toNat % 2 ^ 16 % 2 ^ 64 := hlongs 5 (by decide)
  have h6 : getLong b 6 = a.top.toNat % 2 ^ 16 % 2 ^ 64 := hlongs 6 (by decide)
  have h7 : getLong b 7 = a.color.toNat % 2 ^ 64 := hlongs 7 (by decide)
  have h8 : getLong b 8 = a.ch.toNat % 2 ^ 8 % 2 ^ 64 := hlongs 8 (by decide)
  have hlong {v : ℕ} (hv : v < 2 ^ 32) : v % 2 ^ 64 = v := Nat.mod_eq_of_lt (hv.trans (by decide))
  have hbyte : 2 ^ 8 ∣ 2 ^ 64 := Nat.pow_dvd_pow 2 (by decide)
  rw [decodeDrawChar, h4, h5, h6, h7, h8, hmod, hid', hint, Nat.mod_eq_of_lt hleft, Nat.mod_eq_of_lt htop,
    hlong (hleft.trans (by decide)), hlong (htop.trans (by decide)), hlong hcolor,
    Nat.mod_mod_of_dvd _ hbyte, Nat.mod_mod]

theorem drawChar_agrees (a : CharCall) (hrange : (Call.drawChar a).InRange) :
    (Call.drawChar a).Agrees ↔ (Call.drawChar a).Faithful := by
  by_cases hfd : a.fd < 0
  · exact iff_of_true (fun c => ⟨none, if_pos hfd, nofun⟩) (.inl hfd)
  have hfaithful : (Call.drawChar a).Faithful ↔ a.ch.toNat < 2 ^ 8 := or_iff_right hfd
  have hpacket (c : Client) : ∃ b, drawcharRequest c a = .ok (c.send b) ∧
      ∀ j < 9, getLong b j = a.longs.getD j 0 % 2 ^ 64 := by
    obtain ⟨b, hb⟩ := putLongs_ok a.longs c.buffer (by decide : 9 ≤ 64)
    refine ⟨b, ?_, fun j hj => getLong_putLongs hb hj⟩
    rw [drawcharRequest, if_neg hfd, hb, ok_bind]
  rw [hfaithful]
  constructor
  · intro hagrees
    obtain ⟨sent, hsent, hdecodes⟩ := hagrees lettersClient
    obtain ⟨b, hb, hlongs⟩ := hpacket lettersClient
    obtain rfl : sent = lettersClient.send b := Except.ok.inj (hsent.symm.trans hb)
    have hdecodes := hdecodes b rfl
    rw [Call.Decodes, decodeDrawChar_eq hrange hlongs, CharRequest.mk.injEq] at hdecodes
    obtain ⟨-, -, -, -, hchar⟩ := hdecodes
    rw [← hchar]
    exact Nat.mod_lt _ (by decide)
  · intro hchar c
    obtain ⟨b, hb, hlongs⟩ := hpacket c
    refine ⟨c.send b, hb, fun b' hb' => ?_⟩
    rw [mem_send hb', Call.Decodes, decodeDrawChar_eq hrange hlongs, Nat.mod_eq_of_lt hchar]

/-- **Requests.**  The client library writes inside its buffers and the server finds what was
passed, whatever the library found in the registers and behind the string, exactly for the faithful
calls. -/
theorem requests_agree (call : Call) (hrange : call.InRange) : call.Agrees ↔ call.Faithful := by
  cases call with
  | createWindow a => exact createWindow_agrees a hrange
  | drawText a => exact drawText_agrees a hrange
  | drawChar a => exact drawChar_agrees a hrange

end

/-! ## Two texts -/

/-- A text for window 5. -/
def textCall (string : CString) : Call :=
  .drawText
    { fd := 3
      windowId := 5
      left := 10
      top := 20
      color := 0
      string := string }

/-- `%d`. -/
def percentString : CString := ⟨[ascii '%', ascii 'd'], by decide⟩

/-- `50%%`. -/
def pairedString : CString := ⟨[ascii '5', ascii '0', ascii '%', ascii '%'], by decide⟩

lemma textCall_inRange (string : CString) : (textCall string).InRange := by
  have hleft : (10 : UInt64).toNat < 2 ^ 16 := by decide
  have htop : (20 : UInt64).toNat < 2 ^ 16 := by decide
  have hid : (0 : ℤ) ≤ 5 ∧ (5 : ℤ) < WINDOW_COUNT_MAX := by decide
  exact ⟨⟨hleft, htop⟩, hid⟩

/-- `%d` is taken for a conversion. -/
theorem requests_agree_fails : ¬∀ call : Call, call.InRange → call.Agrees := by
  intro h
  have hagrees := h (textCall percentString) (textCall_inRange percentString)
  have hfaithful := (drawText_agrees _ (textCall_inRange percentString)).1 hagrees
  rcases hfaithful with (hfd | hnil | hlong) | ⟨hpaired, -⟩
  · exact absurd hfd (by decide)
  · cases hnil
  · exact absurd hlong (by decide)
  · exact absurd hpaired (by decide)

/-- Two `%` are sent as they are. -/
theorem requests_agree_paired : (textCall pairedString).Agrees :=
  (requests_agree (textCall pairedString) (textCall_inRange _)).2
    (.inr ⟨by decide, by decide⟩)

end Gramado.Gws

import Gramado.Dev.AtaPio
import Gramado.Lib.Bits
import Gramado.Lib.Run

/-!
# The disk as an array

A call on the port of a master, with a number below `2 ^ 28` and a channel that does nothing, reads or writes the
sector of that number and no other (`pio_does`).  From bit 28 on the number does not fit: that bit stands where the
drive register selects the slave, and the others are lost.

* `ata_run` — in every run of such calls the disk behaves as an array.
-/

namespace Gramado.Ata

open StepRun

variable {m : AtaMachine} {ch : Bool} {s s' : Channels} {c : Channel} {reg : ℕ} {v : UInt8} {t : Transfer}

/-! ## The task file -/

/-- The bits of the drive register of a master. -/
lemma devselByte_facts : ∀ x < 256, (UInt8.ofNat (x ||| 0xE0)).toNat % 16 = x % 16 ∧
    (UInt8.ofNat (x ||| 0xE0)).toNat.testBit 6 = true ∧
    (UInt8.ofNat (x ||| 0xE0)).toNat.testBit 4 = x.testBit 4 := by
  decide +kernel

lemma out8_update (c : Channel) :
    out8 m (.command ch) reg v (Function.update s ch c) = Function.update s ch (c.write m reg v) := by
  simp only [out8, Function.update_self, Function.update_idem]

/-- A channel with the number of a sector in its registers. -/
def addressed (lba : ℕ) (c : Channel) : Channel :=
  { c with
    devsel := devselByte lba 0
    seccount := 1
    lba0 := UInt8.ofNat (lba &&& 0xFF)
    lba1 := UInt8.ofNat ((lba >>> 8) &&& 0xFF)
    lba2 := UInt8.ofNat ((lba >>> 16) &&& 0xFF) }

/-- **The registers name the lower 28 bits**, and bit 28 names the drive. -/
lemma addressed_names {lba : ℕ} (h : lba < 2 ^ 32) (c : Channel) :
    (addressed lba c).number = lba % 2 ^ 28 ∧ (addressed lba c).drive = lba.testBit 28 ∧
      (addressed lba c).devsel.toNat.testBit 6 = true := by
  have hx : lba >>> 24 < 256 := by
    rw [Nat.shiftRight_eq_div_pow]
    omega
  obtain ⟨hlow, hlba, hdrive⟩ := devselByte_facts _ hx
  have hdevsel : (addressed lba c).devsel = UInt8.ofNat (lba >>> 24 ||| 0xE0) := rfl
  refine ⟨?_, ?_, by rw [hdevsel]; exact hlba⟩
  · have hbyte : ∀ x : ℕ, (UInt8.ofNat (x &&& 0xFF)).toNat = x % 256 := by
      intro x
      rw [show (0xFF : ℕ) = 2 ^ 8 - 1 by norm_num, Nat.and_two_pow_sub_one_eq_mod, UInt8.toNat_ofNat']
      omega
    rw [Channel.number, hdevsel, hlow]
    simp only [addressed, hbyte, Nat.shiftRight_eq_div_pow]
    omega
  · rw [Channel.drive, hdevsel, hdrive, Nat.testBit_shiftRight]

/-- **The task file of a channel that does nothing.** -/
lemma sendCommand_idle (lba : ℕ) (cmd : UInt8) (h : (s ch).phase = .idle) :
    sendCommand m ⟨.command ch, 0⟩ lba cmd s
      = Function.update s ch ((addressed lba (s ch)).command m cmd) := by
  have hself : s = Function.update s ch (s ch) := (Function.update_eq_self ch s).symm
  rw [sendCommand]
  nth_rewrite 1 [hself]
  simp only [out8_update, Channel.write, h, ATA_REG_DEVSEL, ATA_REG_SECCOUNT, ATA_REG_LBA0, ATA_REG_LBA1,
    ATA_REG_LBA2, ATA_REG_CMD, addressed]

/-! ## Waiting -/

lemma statusRead_update {p p' : Phase}
    (h : Channel.status { c with phase := p } = (v, { c with phase := p' })) :
    statusRead m (.command ch) (Function.update s ch { c with phase := p })
      = (v, Function.update s ch { c with phase := p' }) := by
  simp only [statusRead, Function.update_self, Function.update_idem, h]

lemma pollDrq_succ {b : Block} {n : ℕ} (h : statusRead m b s = (v, s')) :
    pollDrq m b (n + 1) s = if v &&& ATA_SR_DRQ = 0 then pollDrq m b n s' else (true, s') := by
  rw [pollDrq, h]

lemma waitWhile_done {b : Block} {bit : UInt8} {turns : ℕ} (h : statusRead m b s = (v, s'))
    (hv : v &&& bit = 0) : waitWhile m b bit (turns + 1) s = .ok (false, s') := by
  rw [waitWhile, h]
  exact if_neg (not_not.2 hv)

lemma waitWhile_again {b : Block} {bit v' : UInt8} {turns : ℕ} {s'' : Channels} (h : statusRead m b s = (v, s'))
    (hv : v &&& bit ≠ 0) (h' : statusRead m b s' = (v', s'')) (hv' : v' &&& ATA_SR_ERR = 0) :
    waitWhile m b bit (turns + 1) s = waitWhile m b bit turns s'' := by
  rw [waitWhile, h]
  dsimp only
  rw [if_pos hv, h']
  exact if_neg (not_not.2 hv')

/-- Asking for a transfer: it comes, or the time is over. -/
lemma pollDrq_seeking (n : ℕ) : ∀ left, pollDrq m (.command ch) n
    (Function.update s ch { c with phase := .seeking left t })
      = if left < n then (true, Function.update s ch { c with phase := .transfer t })
        else (false, Function.update s ch { c with phase := .seeking (left - n) t }) := by
  induction n with
  | zero =>
      intro left
      rw [if_neg (Nat.not_lt_zero left)]
      rfl
  | succ n ih =>
      intro left
      cases left with
      | zero =>
          rw [pollDrq_succ (statusRead_update rfl), if_neg (by decide), if_pos (Nat.succ_pos n)]
      | succ left =>
          rw [pollDrq_succ (statusRead_update rfl), if_pos (by decide), ih left]
          simp only [Nat.add_lt_add_iff_right, Nat.add_sub_add_right]

/-- A phase that ends by itself. -/
def Phase.Ends : Phase → Prop
  | .idle => True
  | .settling _ => True
  | _ => False

/-- Waiting while the channel is busy leaves it idle. -/
lemma waitWhile_busy (turns : ℕ) : ∀ (p : Phase) (r : Bool × Channels), p.Ends →
    waitWhile m (.command ch) ATA_SR_BSY turns (Function.update s ch { c with phase := p }) = .ok r →
    r = (false, Function.update s ch { c with phase := .idle }) := by
  induction turns with
  | zero =>
      intro p r _ h
      cases h
  | succ turns ih =>
      intro p r hp h
      cases p with
      | idle =>
          rw [waitWhile_done (statusRead_update rfl) (by decide)] at h
          exact (Except.ok.inj h).symm
      | settling left =>
          cases left with
          | zero =>
              rw [waitWhile_done (statusRead_update rfl) (by decide)] at h
              exact (Except.ok.inj h).symm
          | succ left =>
              cases left with
              | zero =>
                  rw [waitWhile_again (statusRead_update rfl) (by decide) (statusRead_update rfl)
                    (by decide)] at h
                  exact ih .idle r trivial h
              | succ left =>
                  rw [waitWhile_again (statusRead_update rfl) (by decide) (statusRead_update rfl)
                    (by decide)] at h
                  exact ih (.settling left) r trivial h
      | seeking left t => exact absurd hp id
      | transfer t => exact absurd hp id

/-- Waiting comes to an end: enough turns are as many as the channel stays busy. -/
lemma waitWhile_busy_ends (turns : ℕ) : ∀ left < turns,
    waitWhile m (.command ch) ATA_SR_BSY turns (Function.update s ch { c with phase := .settling left })
      = .ok (false, Function.update s ch { c with phase := .idle }) := by
  induction turns with
  | zero =>
      intro left h
      omega
  | succ turns ih =>
      intro left h
      match left with
      | 0 => exact waitWhile_done (statusRead_update rfl) (by decide)
      | 1 =>
          rw [waitWhile_again (statusRead_update rfl) (by decide) (statusRead_update rfl) (by decide)]
          cases turns with
          | zero => omega
          | succ turns => exact waitWhile_done (statusRead_update rfl) (by decide)
      | left + 2 =>
          rw [waitWhile_again (statusRead_update rfl) (by decide) (statusRead_update rfl) (by decide)]
          exact ih left (by omega)

/-- An idle channel asks for nothing. -/
lemma waitWhile_drq (turns : ℕ) (r : Bool × Channels)
    (h : waitWhile m (.command ch) ATA_SR_DRQ turns (Function.update s ch { c with phase := .idle }) = .ok r) :
    r = (false, Function.update s ch { c with phase := .idle }) := by
  cases turns with
  | zero => cases h
  | succ turns =>
      rw [waitWhile_done (statusRead_update rfl) (by decide)] at h
      exact (Except.ok.inj h).symm

/-! ## Transfers -/

/-- The words of a sector are read, and the channel is idle. -/
lemma insw_toHost (w : UInt16) (ws : List UInt16) :
    insw m (.command ch) (ws.length + 1) (Function.update s ch { c with phase := .transfer (.toHost (w :: ws)) })
      = (w :: ws, Function.update s ch { c with phase := .idle }) := by
  induction ws generalizing w with
  | nil => simp only [insw, List.length_nil, Function.update_self, Function.update_idem, Channel.dataIn]
  | cons w' ws ih =>
      rw [List.length_cons, insw]
      simp only [Function.update_self, Function.update_idem, Channel.dataIn]
      rw [ih w']

/-- The words of a sector are written, and the sector is. -/
lemma outsw_toDisk (drive : Bool) (number : ℕ) (w : UInt16) (ws : List UInt16) :
    ∀ (acc : List UInt16) (h : (acc ++ w :: ws).length = 256),
      ∃ left, outsw m (.command ch) (w :: ws)
        (Function.update s ch { c with phase := .transfer (.toDisk drive number acc) })
          = Function.update s ch { c with
              phase := .settling left
              sectors := Function.update c.sectors drive
                (Function.update (c.sectors drive) number ⟨acc ++ w :: ws, h⟩) } := by
  induction ws generalizing w with
  | nil =>
      intro acc h
      refine ⟨m.latency { c with phase := .transfer (.toDisk drive number acc) }, ?_⟩
      simp only [outsw, Function.update_self, Function.update_idem, Channel.dataOut]
      rw [dif_pos h]
  | cons w' ws ih =>
      intro acc h
      have hsame : acc ++ [w] ++ w' :: ws = acc ++ w :: w' :: ws := by simp
      obtain ⟨left, hleft⟩ := ih w' (acc ++ [w]) (by rw [hsame]; exact h)
      refine ⟨left, ?_⟩
      rw [outsw]
      simp only [Function.update_self, Function.update_idem, Channel.dataOut]
      rw [dif_neg (by simp only [List.length_append, List.length_cons, List.length_nil] at h ⊢; omega), hleft]
      simp only [hsame]

/-! ## One call -/

/-- What a call did to the hardware: it gave one command, and read or wrote a sector if it returns 0. -/
structure Does (s s' : Channels) (ch drive : Bool) (number : ℕ) (op : Operation) (a : Answer) : Prop where
  log : (s' ch).log = (drive, number) :: (s ch).log
  other : ∀ ch', ch' ≠ ch → s' ch' = s ch'
  reads : op = .read → (s' ch).sectors = (s ch).sectors ∧
    (a.status = 0 → a.buffer = ((s ch).sectors drive number).1)
  writes : ∀ buffer, op = .write buffer → (s' ch).sectors =
    if a.status = 0 then
      Function.update (s ch).sectors drive (Function.update ((s ch).sectors drive) number buffer)
    else (s ch).sectors

/-- The channel of a master port. -/
lemma ide_ports_master {i : ℕ} (h : (ide_ports i).base_port = .command ch) :
    ide_ports i = ⟨.command ch, 0⟩ ∧ i ≤ 3 := by
  match i with
  | 0 =>
      cases h
      exact ⟨rfl, by omega⟩
  | 1 => cases h
  | 2 =>
      cases h
      exact ⟨rfl, by omega⟩
  | 3 => cases h
  | n + 4 => cases h

/-- A sector has a first word. -/
lemma Sector.cons (sector : Sector) : ∃ w ws, sector.1 = w :: ws ∧ ws.length = 255 := by
  have hlength := sector.2
  cases hws : sector.1 with
  | nil =>
      rw [hws] at hlength
      cases hlength
  | cons w ws =>
      rw [hws, List.length_cons] at hlength
      exact ⟨w, ws, rfl, by omega⟩

/-- The cache is flushed. -/
lemma out8_flush (c : Channel) :
    out8 m (.command ch) ATA_REG_CMD ATA_CMD_FLUSH_CACHE (Function.update s ch { c with phase := .idle })
      = Function.update s ch { c with phase := .settling (m.latency { c with phase := .idle }) } := by
  rw [out8_update]
  simp only [Channel.write, ATA_REG_CMD, ATA_CMD_FLUSH_CACHE, Channel.command]
  rw [if_neg (fun hand => absurd hand.1 (by decide)), if_neg (fun hand => absurd hand.1 (by decide)),
    if_pos trivial]

/-- The channel takes a command for one sector. -/
lemma command_read (m : AtaMachine) {lba : ℕ} (h : lba < 2 ^ 32) (c₀ : Channel) :
    ∃ (c : Channel) (left : ℕ), (addressed lba c₀).command m 0x20
        = { c with phase := .seeking left (.toHost (c₀.sectors (lba.testBit 28) (lba % 2 ^ 28)).1) } ∧
      c.sectors = c₀.sectors ∧ c.log = (lba.testBit 28, lba % 2 ^ 28) :: c₀.log := by
  obtain ⟨hnumber, hdrive, hmode⟩ := addressed_names h c₀
  refine ⟨{ addressed lba c₀ with log := (lba.testBit 28, lba % 2 ^ 28) :: c₀.log },
    m.latency (addressed lba c₀), ?_, rfl, rfl⟩
  rw [Channel.command, if_pos ⟨rfl, hmode, rfl⟩, hnumber, hdrive]
  rfl

lemma command_write (m : AtaMachine) {lba : ℕ} (h : lba < 2 ^ 32) (c₀ : Channel) :
    ∃ (c : Channel) (left : ℕ), (addressed lba c₀).command m 0x30
        = { c with phase := .seeking left (.toDisk (lba.testBit 28) (lba % 2 ^ 28) []) } ∧
      c.sectors = c₀.sectors ∧ c.log = (lba.testBit 28, lba % 2 ^ 28) :: c₀.log := by
  obtain ⟨hnumber, hdrive, hmode⟩ := addressed_names h c₀
  refine ⟨{ addressed lba c₀ with log := (lba.testBit 28, lba % 2 ^ 28) :: c₀.log },
    m.latency (addressed lba c₀), ?_, rfl, rfl⟩
  rw [Channel.command, if_neg (fun hand => absurd hand.1 (by decide)), if_pos ⟨rfl, hmode, rfl⟩, hnumber, hdrive]
  rfl

/-- **A read** on the port of a master whose channel does nothing. -/
lemma pio_read {i lba : ℕ} (turns : ℕ) (hport : (ide_ports (i &&& 0xFF)).base_port = .command ch)
    (hidle : (s ch).phase = .idle) (hlba : lba < 2 ^ 32) :
    ∃ a s', pioRwSector m turns lba .read i s = .ok (a, s') ∧
      Does s s' ch (lba.testBit 28) (lba % 2 ^ 28) .read a := by
  obtain ⟨hide, hle⟩ := ide_ports_master hport
  obtain ⟨c, left, hcommand, hsectors, hlog⟩ := command_read m hlba (s ch)
  obtain ⟨w, ws, hws, hlength⟩ := ((s ch).sectors (lba.testBit 28) (lba % 2 ^ 28)).cons
  rw [hws] at hcommand
  have hpoll : pollDrq m (.command ch) 20000 (sendCommand m ⟨.command ch, 0⟩ lba 0x20 s) =
      if left < 20000 then
        (true, Function.update s ch { c with phase := .transfer (.toHost (w :: ws)) })
      else (false, Function.update s ch { c with phase := .seeking (left - 20000) (.toHost (w :: ws)) }) := by
    rw [sendCommand_idle lba 0x20 hidle, hcommand, pollDrq_seeking]
  have hcall : pioRwSector m turns lba .read i s =
      let r := pollDrq m (.command ch) 20000 (sendCommand m ⟨.command ch, 0⟩ lba 0x20 s)
      if r.1 then .ok (⟨0, (insw m (.command ch) 256 r.2).1⟩, (insw m (.command ch) 256 r.2).2)
      else .ok (⟨-3, []⟩, r.2) := by
    unfold pioRwSector
    dsimp only
    rw [if_neg (by omega), hide, if_neg (by simp)]
  rw [hcall, hpoll]
  by_cases hsoon : left < 20000
  · have hwords := @insw_toHost m ch s c w ws
    rw [hlength] at hwords
    rw [if_pos hsoon]
    dsimp only
    rw [if_pos rfl, hwords]
    dsimp only
    refine ⟨_, _, rfl, ?_, fun ch' hne => Function.update_of_ne hne _ _, fun _ => ⟨?_, fun _ => hws.symm⟩,
      fun _ h => nomatch h⟩
    · rw [Function.update_self]
      exact hlog
    · rw [Function.update_self]
      exact hsectors
  · rw [if_neg hsoon]
    dsimp only
    rw [if_neg (by decide)]
    refine ⟨_, _, rfl, ?_, fun ch' hne => Function.update_of_ne hne _ _, fun _ => ⟨?_, fun h => ?_⟩,
      fun _ h => nomatch h⟩
    · rw [Function.update_self]
      exact hlog
    · rw [Function.update_self]
      exact hsectors
    · exact absurd h (by decide)

lemma pioRwSector_write {i lba turns : ℕ} {buffer : Sector}
    (hport : (ide_ports (i &&& 0xFF)).base_port = .command ch) :
    pioRwSector m turns lba (.write buffer) i s =
      let r := pollDrq m (.command ch) 20000 (sendCommand m ⟨.command ch, 0⟩ lba 0x30 s)
      if r.1 then do
        let r₁ ← waitWhile m (.command ch) ATA_SR_BSY turns (outsw m (.command ch) buffer.1 r.2)
        let r₂ ← waitWhile m (.command ch) ATA_SR_BSY turns
          (out8 m (.command ch) ATA_REG_CMD ATA_CMD_FLUSH_CACHE r₁.2)
        let r₃ ← waitWhile m (.command ch) ATA_SR_DRQ turns r₂.2
        if r₃.1 then .ok (⟨-1, []⟩, r₃.2) else .ok (⟨0, []⟩, r₃.2)
      else .ok (⟨-3, []⟩, r.2) := by
  obtain ⟨hide, hle⟩ := ide_ports_master hport
  unfold pioRwSector
  dsimp only
  rw [if_neg (by omega), hide, if_neg (by simp)]

/-- **A write** on the port of a master whose channel does nothing. -/
lemma pio_write {i lba turns : ℕ} {buffer : Sector} {a : Answer}
    (hport : (ide_ports (i &&& 0xFF)).base_port = .command ch)
    (hidle : (s ch).phase = .idle) (hlba : lba < 2 ^ 32)
    (h : pioRwSector m turns lba (.write buffer) i s = .ok (a, s')) :
    Does s s' ch (lba.testBit 28) (lba % 2 ^ 28) (.write buffer) a := by
  obtain ⟨hide, hle⟩ := ide_ports_master hport
  obtain ⟨c, left, hcommand, hsectors, hlog⟩ := command_write m hlba (s ch)
  obtain ⟨w, ws, hws, hlength⟩ := buffer.cons
  have hpoll : pollDrq m (.command ch) 20000 (sendCommand m ⟨.command ch, 0⟩ lba 0x30 s) =
      if left < 20000 then
        (true, Function.update s ch
          { c with phase := .transfer (.toDisk (lba.testBit 28) (lba % 2 ^ 28) []) })
      else (false, Function.update s ch
          { c with phase := .seeking (left - 20000) (.toDisk (lba.testBit 28) (lba % 2 ^ 28) []) }) := by
    rw [sendCommand_idle lba 0x30 hidle, hcommand, pollDrq_seeking]
  rw [pioRwSector_write hport] at h
  dsimp only at h
  rw [hpoll] at h
  by_cases hsoon : left < 20000
  · rw [if_pos hsoon] at h
    dsimp only at h
    have hwhole : ([] ++ w :: ws).length = 256 := by
      rw [List.nil_append, ← hws]
      exact buffer.2
    obtain ⟨left', hout⟩ := @outsw_toDisk m ch s c (lba.testBit 28) (lba % 2 ^ 28) w ws [] hwhole
    rw [if_pos rfl, hws, hout] at h
    -- the sector is written; the cache is flushed before the call returns
    obtain ⟨c₁, hc₁⟩ : ∃ c₁ : Channel, c₁ = { c with
        sectors := Function.update c.sectors (lba.testBit 28)
          (Function.update (c.sectors (lba.testBit 28)) (lba % 2 ^ 28) ⟨[] ++ w :: ws, hwhole⟩) } := ⟨_, rfl⟩
    obtain ⟨r₁, h₁, h⟩ := bind_eq_ok h
    obtain rfl := @waitWhile_busy m ch s c₁ turns (.settling left') r₁ trivial (by rw [hc₁]; exact h₁)
    dsimp only at h
    rw [out8_flush] at h
    obtain ⟨r₂, h₂, h⟩ := bind_eq_ok h
    obtain rfl := waitWhile_busy turns (.settling _) r₂ trivial h₂
    obtain ⟨r₃, h₃, h⟩ := bind_eq_ok h
    obtain rfl := waitWhile_drq turns r₃ h₃
    dsimp only at h
    rw [if_neg (by decide)] at h
    obtain ⟨rfl, rfl⟩ := Prod.mk.inj (Except.ok.inj h)
    refine ⟨?_, fun ch' hne => Function.update_of_ne hne _ _, (fun h => nomatch h), fun b hb => ?_⟩
    · rw [Function.update_self, hc₁]
      exact hlog
    · obtain rfl : buffer = b := by
        injection hb
      rw [Function.update_self, if_pos rfl, hc₁, ← hsectors]
      dsimp only
      congr 2
      exact Subtype.ext hws.symm
  · rw [if_neg hsoon] at h
    dsimp only at h
    rw [if_neg (by decide)] at h
    obtain ⟨rfl, rfl⟩ := Prod.mk.inj (Except.ok.inj h)
    refine ⟨?_, fun ch' hne => Function.update_of_ne hne _ _, (fun h => nomatch h), fun b hb => ?_⟩
    · rw [Function.update_self]
      exact hlog
    · rw [Function.update_self, if_neg (by decide)]
      exact hsectors

/-- **A write comes back.** -/
lemma pio_write_returns {i lba : ℕ} (buffer : Sector)
    (hport : (ide_ports (i &&& 0xFF)).base_port = .command ch)
    (hidle : (s ch).phase = .idle) (hlba : lba < 2 ^ 32) :
    ∃ turns a s', pioRwSector m turns lba (.write buffer) i s = .ok (a, s') := by
  obtain ⟨hide, hle⟩ := ide_ports_master hport
  obtain ⟨c, left, hcommand, -, -⟩ := command_write m hlba (s ch)
  obtain ⟨w, ws, hws, -⟩ := buffer.cons
  have hpoll : pollDrq m (.command ch) 20000 (sendCommand m ⟨.command ch, 0⟩ lba 0x30 s) =
      if left < 20000 then
        (true, Function.update s ch
          { c with phase := .transfer (.toDisk (lba.testBit 28) (lba % 2 ^ 28) []) })
      else (false, Function.update s ch
          { c with phase := .seeking (left - 20000) (.toDisk (lba.testBit 28) (lba % 2 ^ 28) []) }) := by
    rw [sendCommand_idle lba 0x30 hidle, hcommand, pollDrq_seeking]
  by_cases hsoon : left < 20000
  · have hwhole : ([] ++ w :: ws).length = 256 := by
      rw [List.nil_append, ← hws]
      exact buffer.2
    obtain ⟨left', hout⟩ := @outsw_toDisk m ch s c (lba.testBit 28) (lba % 2 ^ 28) w ws [] hwhole
    obtain ⟨c₁, hc₁⟩ : ∃ c₁ : Channel, c₁ = { c with
        sectors := Function.update c.sectors (lba.testBit 28)
          (Function.update (c.sectors (lba.testBit 28)) (lba % 2 ^ 28) ⟨[] ++ w :: ws, hwhole⟩) } := ⟨_, rfl⟩
    have hfirst := fun turns => @waitWhile_busy_ends m ch s c₁ turns left'
    have hsecond := fun turns => @waitWhile_busy_ends m ch s c₁ turns (m.latency { c₁ with phase := .idle })
    have hbusy : outsw m (.command ch) (w :: ws) (Function.update s ch
        { c with phase := .transfer (.toDisk (lba.testBit 28) (lba % 2 ^ 28) []) })
        = Function.update s ch { c₁ with phase := .settling left' } := by rw [hout, hc₁]
    refine ⟨left' + m.latency { c₁ with phase := .idle } + 1, ⟨0, []⟩,
      Function.update s ch { c₁ with phase := .idle }, ?_⟩
    rw [pioRwSector_write hport, hpoll, if_pos hsoon, hws]
    dsimp only
    rw [if_pos rfl, hbusy, hfirst _ (by omega), ok_bind, out8_flush, hsecond _ (by omega), ok_bind,
      waitWhile_done (statusRead_update rfl) (by decide), ok_bind]
    rfl
  · refine ⟨0, ⟨-3, []⟩, Function.update s ch
      { c with phase := .seeking (left - 20000) (.toDisk (lba.testBit 28) (lba % 2 ^ 28) []) }, ?_⟩
    rw [pioRwSector_write hport, hpoll, if_neg hsoon]
    rfl

/-! ## Runs -/

/-- A call of the driver: its port, the sector and what is done, and how many turns of a `while` are looked at. -/
structure AtaCall where
  idePort : ℕ
  lba : ℕ
  op : Operation
  turns : ℕ

/-- The hardware, what the sectors of all drives should hold, and what the last call returned. -/
structure AtaTrace where
  channels : Channels
  disk : Bool → Bool → ℕ → Sector
  answer : Answer

/-- `ata_get_current_ide_port_index` as a channel and a drive. -/
def driveOf (idePort : ℕ) : Bool × Bool := (decide (2 ≤ idePort), decide (idePort % 2 = 1))

/-- One call; a write that returns 0 is to be found later. -/
def ataStep (m : AtaMachine) (size : ℕ) (t : AtaTrace) (call : AtaCall) : Except Stop AtaTrace :=
  match call.op with
  | .read => do
      let (a, s) ← ataReadSector m size call.turns call.lba call.idePort t.channels
      .ok { t with channels := s, answer := a }
  | .write buffer => do
      let (a, s) ← ataWriteSector m size call.turns call.lba buffer call.idePort t.channels
      let (ch, drive) := driveOf call.idePort
      .ok {
        channels := s
        disk := if a.status = 0 then
            Function.update t.disk ch (Function.update (t.disk ch) drive
              (Function.update (t.disk ch drive) call.lba buffer))
          else t.disk
        answer := a }

/-- **What a call shall do**: its command is for the drive and the sector it names, a read that returns 0 delivers
what the sector should hold, and a write changes no other sector. -/
structure ActsAsArray (t : AtaTrace) (call : AtaCall) (t' : AtaTrace) : Prop where
  command : (t'.channels (driveOf call.idePort).1).log
    = ((driveOf call.idePort).2, call.lba) :: (t.channels (driveOf call.idePort).1).log
  other : ∀ ch, ch ≠ (driveOf call.idePort).1 → (t'.channels ch).log = (t.channels ch).log
  read : call.op = .read → t'.answer.status = 0 →
    t'.answer.buffer = (t.disk (driveOf call.idePort).1 (driveOf call.idePort).2 call.lba).1
  sectors : ∀ ch drive n, (t'.channels ch).sectors drive n ≠ (t.channels ch).sectors drive n →
    (ch, drive) = driveOf call.idePort ∧ n = call.lba ∧
      ∃ buffer, call.op = .write buffer ∧ (t'.channels ch).sectors drive n = buffer ∧ t'.answer.status = 0

/-- The call is for the port of a master, and its channel does nothing. -/
def Ready (t : AtaTrace) (call : AtaCall) : Prop :=
  (ide_ports call.idePort).base_port = .command (driveOf call.idePort).1 ∧
    (t.channels (driveOf call.idePort).1).phase = .idle

/-- The number fits in the task file. -/
def Addressable (_ : AtaTrace) (call : AtaCall) : Prop := call.lba < 2 ^ 28

/-- The sectors with a number that fits hold what they should. -/
def HoldsDisk (t : AtaTrace) : Prop :=
  ∀ ch drive n, n < 2 ^ 28 → (t.channels ch).sectors drive n = t.disk ch drive n

/-- A run begins with the sectors as they are. -/
def AtaTrace.start (channels : Channels) : AtaTrace :=
  ⟨channels, fun ch drive n => (channels ch).sectors drive n, ⟨0, []⟩⟩

variable {size : ℕ} {t t' : AtaTrace} {call : AtaCall}

lemma Ready.port (h : Ready t call) : call.idePort &&& 0xFF = call.idePort ∧
    (driveOf call.idePort).2 = false := by
  obtain ⟨hport, -⟩ := h
  match hi : call.idePort with
  | 0 => exact ⟨rfl, rfl⟩
  | 1 => rw [hi] at hport; cases hport
  | 2 => exact ⟨rfl, rfl⟩
  | 3 => rw [hi] at hport; cases hport
  | n + 4 => rw [hi] at hport; cases hport

/-- **A call that returns** for a master whose channel did nothing. -/
lemma ataStep_does (h : Ready t call) (hstep : ataStep m size t call = .ok t') :
    Does t.channels t'.channels (driveOf call.idePort).1 ((call.lba % 2 ^ 32).testBit 28)
        (call.lba % 2 ^ 32 % 2 ^ 28) call.op t'.answer ∧
      t'.disk = match call.op with
        | .read => t.disk
        | .write buffer => if t'.answer.status = 0 then
            Function.update t.disk (driveOf call.idePort).1
              (Function.update (t.disk (driveOf call.idePort).1) (driveOf call.idePort).2
                (Function.update (t.disk (driveOf call.idePort).1 (driveOf call.idePort).2) call.lba buffer))
          else t.disk := by
  have hport : (ide_ports (call.idePort &&& 0xFF)).base_port = .command (driveOf call.idePort).1 := by
    rw [h.port.1]
    exact h.1
  have hlt : call.lba % 2 ^ 32 < 2 ^ 32 := Nat.mod_lt _ (by norm_num)
  unfold ataStep at hstep
  cases hop : call.op with
  | read =>
      rw [hop] at hstep
      obtain ⟨⟨a, s⟩, hcall, hstep⟩ := bind_eq_ok hstep
      obtain rfl := Except.ok.inj hstep
      unfold ataReadSector ataSector at hcall
      split_ifs at hcall
      obtain ⟨a', s', hpio, hdoes⟩ := pio_read (m := m) call.turns hport h.2 hlt
      obtain ⟨rfl, rfl⟩ := Prod.mk.inj (Except.ok.inj (hpio.symm.trans hcall))
      exact ⟨hdoes, rfl⟩
  | write buffer =>
      rw [hop] at hstep
      obtain ⟨⟨a, s⟩, hcall, hstep⟩ := bind_eq_ok hstep
      obtain rfl := Except.ok.inj hstep
      unfold ataWriteSector ataSector at hcall
      split_ifs at hcall
      exact ⟨pio_write hport h.2 hlt hcall, rfl⟩

/-- **A call comes back**, if enough turns are looked at. -/
lemma ataStep_returns (h : Ready t call) (hlimit : call.lba < size) :
    ∃ turns t', ataStep m size t { call with turns := turns } = .ok t' := by
  have hport : (ide_ports (call.idePort &&& 0xFF)).base_port = .command (driveOf call.idePort).1 := by
    rw [h.port.1]
    exact h.1
  have hlt : call.lba % 2 ^ 32 < 2 ^ 32 := Nat.mod_lt _ (by norm_num)
  have hsize : ¬size = 0 := by omega
  cases hop : call.op with
  | read =>
      obtain ⟨a, s, hpio, -⟩ := pio_read (m := m) 0 hport h.2 hlt
      refine ⟨0, ?_⟩
      simp only [ataStep, ataReadSector, ataSector]
      rw [if_neg hsize, if_neg (by omega), hpio]
      exact ⟨_, rfl⟩
  | write buffer =>
      obtain ⟨turns, a, s, hpio⟩ := pio_write_returns (m := m) buffer hport h.2 hlt
      refine ⟨turns, ?_⟩
      simp only [ataStep, ataWriteSector, ataSector]
      rw [if_neg hsize, if_neg (by omega), hpio]
      exact ⟨_, rfl⟩

/-- A number that fits names its own sector of the master. -/
lemma Addressable.names (h : call.lba < 2 ^ 28) :
    (call.lba % 2 ^ 32).testBit 28 = false ∧ call.lba % 2 ^ 32 % 2 ^ 28 = call.lba := by
  have hmod : call.lba % 2 ^ 32 = call.lba := Nat.mod_eq_of_lt (by omega)
  rw [hmod]
  exact ⟨Nat.testBit_lt_two_pow h, Nat.mod_eq_of_lt h⟩

/-- **One call on the array.** -/
lemma ataStep_acts (hdisk : HoldsDisk t) (h : Ready t call) (hlba : call.lba < 2 ^ 28)
    (hstep : ataStep m size t call = .ok t') : ActsAsArray t call t' ∧ HoldsDisk t' := by
  obtain ⟨hdoes, hghost⟩ := ataStep_does h hstep
  obtain ⟨hbit, hnumber⟩ := Addressable.names hlba
  have hdrive := h.port.2
  rw [hbit, hnumber, ← hdrive] at hdoes
  have hsame : ∀ ch, ch ≠ (driveOf call.idePort).1 → t'.channels ch = t.channels ch := hdoes.other
  cases hop : call.op with
  | read =>
      rw [hop] at hghost
      obtain ⟨hkeeps, hbuffer⟩ := hdoes.reads hop
      have hall : ∀ ch, (t'.channels ch).sectors = (t.channels ch).sectors := by
        intro ch
        by_cases hch : ch = (driveOf call.idePort).1
        · rw [hch, hkeeps]
        · rw [hsame ch hch]
      refine ⟨⟨hdoes.log, fun ch hne => by rw [hsame ch hne], fun _ hzero => ?_, fun ch drive n hne => ?_⟩,
        fun ch drive n hn => ?_⟩
      · rw [hbuffer hzero, hdisk _ _ _ hlba]
      · exact absurd (by rw [hall]) hne
      · rw [hall, hghost]
        exact hdisk ch drive n hn
  | write buffer =>
      rw [hop] at hghost
      have hkeeps := hdoes.writes buffer hop
      dsimp only at hghost
      refine ⟨⟨hdoes.log, fun ch hne => by rw [hsame ch hne], fun hread => ?_, fun ch drive n hne => ?_⟩,
        fun ch drive n hn => ?_⟩
      · rw [hop] at hread
        cases hread
      · by_cases hch : ch = (driveOf call.idePort).1
        · subst hch
          rw [hkeeps] at hne ⊢
          split_ifs at hne ⊢ with hzero
          · by_cases hd : drive = (driveOf call.idePort).2
            · subst hd
              by_cases hn : n = call.lba
              · subst hn
                refine ⟨rfl, rfl, buffer, hop, ?_, hzero⟩
                rw [Function.update_self, Function.update_self]
              · rw [Function.update_self, Function.update_of_ne hn] at hne
                exact absurd rfl hne
            · rw [Function.update_of_ne hd] at hne
              exact absurd rfl hne
          · exact absurd rfl hne
        · rw [hsame ch hch] at hne
          exact absurd rfl hne
      · rw [hghost]
        by_cases hch : ch = (driveOf call.idePort).1
        · subst hch
          rw [hkeeps]
          split_ifs with hzero
          · simp only [Function.update_self]
            by_cases hd : drive = (driveOf call.idePort).2
            · subst hd
              simp only [Function.update_self, Function.update_apply]
              split_ifs
              · rfl
              · exact hdisk _ _ _ hn
            · rw [Function.update_of_ne hd, Function.update_of_ne hd]
              exact hdisk _ _ _ hn
          · exact hdisk _ _ _ hn
        · rw [hsame ch hch]
          split_ifs with hzero
          · rw [Function.update_of_ne hch]
            exact hdisk _ _ _ hn
          · exact hdisk _ _ _ hn

/-- A call that acts as on an array has a number that fits. -/
lemma ActsAsArray.addressable (hacts : ActsAsArray t call t') (h : Ready t call)
    (hstep : ataStep m size t call = .ok t') : call.lba < 2 ^ 28 := by
  have hlog := hacts.command
  rw [(ataStep_does h hstep).1.log] at hlog
  have hnumber := congrArg (fun l => l.head?.map Prod.snd) hlog
  simp only [List.head?_cons, Option.map_some, Option.some.injEq] at hnumber
  rw [← hnumber]
  exact Nat.mod_lt _ (by norm_num)

/-- **The disk is an array** in every run of calls with numbers below `2 ^ 28`, for the ports of masters whose
channels do nothing when they are called; and in no run of such calls in which one has a number from there on. -/
theorem ata_run (m : AtaMachine) (size : ℕ) (channels : Channels) (calls : List AtaCall)
    (hready : Meets (ataStep m size) Ready (.start channels) calls) :
    AlongSteps (ataStep m size) ActsAsArray (.start channels) calls ↔
      Meets (ataStep m size) Addressable (.start channels) calls := by
  have hstart : HoldsDisk (.start channels) := fun _ _ _ _ => rfl
  generalize AtaTrace.start channels = t at hready hstart ⊢
  induction calls generalizing t with
  | nil => exact Iff.rfl
  | cons call calls ih =>
      constructor
      · intro h t' hstep
        obtain ⟨hacts, hrest⟩ := h t' hstep
        obtain ⟨hr, hready'⟩ := hready t' hstep
        have hlba := hacts.addressable hr hstep
        obtain ⟨-, hholds⟩ := ataStep_acts hstart hr hlba hstep
        exact ⟨hlba, (ih t' hready' hholds).1 hrest⟩
      · intro h t' hstep
        obtain ⟨hlba, hrest⟩ := h t' hstep
        obtain ⟨hr, hready'⟩ := hready t' hstep
        obtain ⟨hacts, hholds⟩ := ataStep_acts hstart hr hlba hstep
        exact ⟨hacts, (ih t' hready' hholds).2 hrest⟩

/-- A machine that is never busy. -/
def promptMachine : AtaMachine where
  latency _ := 0
  strayWrite c _ _ := c
  strayDataIn c := (0, c)
  strayDataOut c _ := c
  otherOut _ _ _ s := s
  otherIn _ _ s := (0, s)
  otherDataIn _ s := (0, s)
  otherDataOut _ _ s := s

/-- Two channels that do nothing; the sectors of the masters are 0, those of the slaves are ones. -/
def quietChannels : Channels := fun _ =>
  { seccount := 0
    lba0 := 0
    lba1 := 0
    lba2 := 0
    devsel := 0
    phase := .idle
    sectors := fun drive _ => ⟨.replicate 256 (if drive then 1 else 0), List.length_replicate⟩
    log := [] }

/-- The master of the first channel is read. -/
def readsMaster (lba : ℕ) : AtaCall := ⟨0, lba, .read, 0⟩

lemma readsMaster_ready (lba : ℕ) : Ready (.start quietChannels) (readsMaster lba) := ⟨rfl, rfl⟩

theorem ata_run_oneRead :
    Meets (ataStep promptMachine 4096) Ready (.start quietChannels) [readsMaster 2048] ∧
      (AlongSteps (ataStep promptMachine 4096) ActsAsArray (.start quietChannels) [readsMaster 2048] ↔
        Meets (ataStep promptMachine 4096) Addressable (.start quietChannels) [readsMaster 2048]) :=
  have hready : Meets (ataStep promptMachine 4096) Ready (.start quietChannels) [readsMaster 2048] :=
    fun _ _ => ⟨readsMaster_ready 2048, trivial⟩
  ⟨hready, ata_run promptMachine 4096 quietChannels [readsMaster 2048] hready⟩

/-- The first sector of the second 128 GiB of the master is read from the slave. -/
theorem ata_fails : ¬∀ (m : AtaMachine) (size : ℕ) (channels : Channels) (calls : List AtaCall),
    (∀ ch, (channels ch).phase = .idle) →
      AlongSteps (ataStep m size) ActsAsArray (.start channels) calls := by
  intro h
  have hready : Ready (.start quietChannels) (readsMaster (2 ^ 28)) := readsMaster_ready (2 ^ 28)
  obtain ⟨turns, t', hstep⟩ : ∃ turns t', ataStep promptMachine (2 ^ 29) (.start quietChannels)
      { readsMaster (2 ^ 28) with turns := turns } = .ok t' := ataStep_returns hready (by decide)
  obtain ⟨hacts, -⟩ := h promptMachine (2 ^ 29) quietChannels [{ readsMaster (2 ^ 28) with turns := turns }]
    (fun _ => rfl) t' hstep
  exact absurd (hacts.addressable ⟨rfl, rfl⟩ hstep) (Nat.lt_irrefl _)

end Gramado.Ata

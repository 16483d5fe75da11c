import Gramado.Core.CTypes

/-!
# Sectors by programmed I/O

`ataReadSector` and `ataWriteSector` of `kres/dev/blkdev/ata/atahdd.c`, with the `__pio_rw_sector` under both.

The hardware is a `Channel` with its task file, which two drives share.  It takes the commands `READ SECTORS`,
`WRITE SECTORS` and `FLUSH CACHE` for one sector with a 28-bit number, makes the host wait as long as it wants,
and makes no errors.  What it does with a register that is written while a command is in progress, and with
everything else that is not for it, is not said: an `AtaMachine` is any such hardware.
-/

namespace Gramado.Ata

/-! ## The hardware -/

/-- The 256 words of a sector. -/
abbrev Sector := {words : List UInt16 // words.length = 256}

/-- A transfer through the data register: the words still to be read, or the sector to be written and the words
it has already. -/
inductive Transfer
  | toHost (words : List UInt16)
  | toDisk (drive : Bool) (number : ℕ) (words : List UInt16)

/-- What a channel is doing: nothing; it is busy for so many reads of the status; it transfers. -/
inductive Phase
  | idle
  | seeking (left : ℕ) (t : Transfer)
  | transfer (t : Transfer)
  | settling (left : ℕ)

/-- A channel with its registers and two drives, `false` being the master.  `log` are the drives and sectors of
the commands it took, the newest first. -/
structure Channel where
  seccount : UInt8
  lba0 : UInt8
  lba1 : UInt8
  lba2 : UInt8
  devsel : UInt8
  phase : Phase
  sectors : Bool → ℕ → Sector
  log : List (Bool × ℕ)

/-- An I/O base: the registers of a channel, `false` being the primary one, or its control block. -/
inductive Block
  | command (channel : Bool)
  | control (channel : Bool)
  deriving DecidableEq

/-- The two channels. -/
abbrev Channels := Bool → Channel

/-- What is left open about the hardware. -/
structure AtaMachine where
  /-- How long the next command takes. -/
  latency : Channel → ℕ
  /-- A register is written while a command is in progress, or with a command that is not for one sector. -/
  strayWrite : Channel → ℕ → UInt8 → Channel
  strayDataIn : Channel → UInt16 × Channel
  strayDataOut : Channel → UInt16 → Channel
  otherOut : Bool → ℕ → UInt8 → Channels → Channels
  otherIn : Bool → ℕ → Channels → UInt8 × Channels
  otherDataIn : Bool → Channels → UInt16 × Channels
  otherDataOut : Bool → UInt16 → Channels → Channels

namespace Channel

/-- The drive that the registers name: bit 4 of the drive register. -/
def drive (c : Channel) : Bool := c.devsel.toNat.testBit 4

/-- The sector that the registers name. -/
def number (c : Channel) : ℕ :=
  c.devsel.toNat % 16 * 2 ^ 24 + c.lba2.toNat * 2 ^ 16 + c.lba1.toNat * 2 ^ 8 + c.lba0.toNat

variable (m : AtaMachine)

/-- The command register of a channel that does nothing. -/
def command (v : UInt8) (c : Channel) : Channel :=
  if v = 0x20 ∧ c.devsel.toNat.testBit 6 ∧ c.seccount = 1 then
    { c with
      phase := .seeking (m.latency c) (.toHost (c.sectors c.drive c.number).1)
      log := (c.drive, c.number) :: c.log }
  else if v = 0x30 ∧ c.devsel.toNat.testBit 6 ∧ c.seccount = 1 then
    { c with
      phase := .seeking (m.latency c) (.toDisk c.drive c.number [])
      log := (c.drive, c.number) :: c.log }
  else if v = 0xE7 then { c with phase := .settling (m.latency c) }
  else m.strayWrite c 7 v

/-- A register is written. -/
def write (reg : ℕ) (v : UInt8) (c : Channel) : Channel :=
  match c.phase with
  | .idle =>
      match reg with
      | 2 => { c with seccount := v }
      | 3 => { c with lba0 := v }
      | 4 => { c with lba1 := v }
      | 5 => { c with lba2 := v }
      | 6 => { c with devsel := v }
      | 7 => command m v c
      | _ => m.strayWrite c reg v
  | _ => m.strayWrite c reg v

/-- The status register is read: `BSY`, or `DRDY` with or without `DRQ`. -/
def status (c : Channel) : UInt8 × Channel :=
  match c.phase with
  | .idle => (0x40, c)
  | .seeking 0 t => (0x48, { c with phase := .transfer t })
  | .seeking (left + 1) t => (0x80, { c with phase := .seeking left t })
  | .transfer _ => (0x48, c)
  | .settling 0 => (0x40, { c with phase := .idle })
  | .settling (left + 1) => (0x80, { c with phase := .settling left })

/-- The data register is read. -/
def dataIn (c : Channel) : UInt16 × Channel :=
  match c.phase with
  | .transfer (.toHost [w]) => (w, { c with phase := .idle })
  | .transfer (.toHost (w :: ws)) => (w, { c with phase := .transfer (.toHost ws) })
  | _ => m.strayDataIn c

/-- The data register is written; the sector is, when it is complete. -/
def dataOut (w : UInt16) (c : Channel) : Channel :=
  match c.phase with
  | .transfer (.toDisk drive number ws) =>
      if h : (ws ++ [w]).length = 256 then
        { c with
          phase := .settling (m.latency c)
          sectors := Function.update c.sectors drive (Function.update (c.sectors drive) number ⟨ws ++ [w], h⟩) }
      else { c with phase := .transfer (.toDisk drive number (ws ++ [w])) }
  | _ => m.strayDataOut c w

end Channel

/-! ## The instructions -/

section Instructions

variable (m : AtaMachine) (b : Block)

/-- `out8` to a register behind a base. -/
def out8 (reg : ℕ) (v : UInt8) (s : Channels) : Channels :=
  match b with
  | .command ch => Function.update s ch ((s ch).write m reg v)
  | .control ch => m.otherOut ch reg v s

/-- `__hdd_ata_status_read`, and every other `in8` from `base_port + 7`. -/
def statusRead (s : Channels) : UInt8 × Channels :=
  match b with
  | .command ch => ((s ch).status.1, Function.update s ch (s ch).status.2)
  | .control ch => m.otherIn ch 7 s

/-- `rep; insw` from the data register: the words that were read. -/
def insw : ℕ → Channels → List UInt16 × Channels
  | 0, s => ([], s)
  | n + 1, s =>
      let (w, s) := match b with
        | .command ch => (((s ch).dataIn m).1, Function.update s ch ((s ch).dataIn m).2)
        | .control ch => m.otherDataIn ch s
      let (ws, s) := insw n s
      (w :: ws, s)

/-- `rep; outsw` to the data register. -/
def outsw : List UInt16 → Channels → Channels
  | [], s => s
  | w :: ws, s =>
      match b with
      | .command ch => outsw ws (Function.update s ch ((s ch).dataOut m w))
      | .control ch => outsw ws (m.otherDataOut ch w s)

end Instructions

/-! ## The driver -/

def ATA_SR_BSY : UInt8 := 0x80
def ATA_SR_DRQ : UInt8 := 0x08
def ATA_SR_ERR : UInt8 := 0x01
def ATA_REG_SECCOUNT : ℕ := 2
def ATA_REG_LBA0 : ℕ := 3
def ATA_REG_LBA1 : ℕ := 4
def ATA_REG_LBA2 : ℕ := 5
def ATA_REG_DEVSEL : ℕ := 6
def ATA_REG_CMD : ℕ := 7
def ATA_CMD_FLUSH_CACHE : UInt8 := 0xE7

/-- What `__pio_rw_sector` uses of `struct ide_port_d`. -/
structure IdePort where
  base_port : Block
  dev_num : ℕ

/-- `ide_ports[]` as `__ata_initialize` and `__ata_config_structure` fill it in: the four base ports are those of
the four BARs in order, while the ports are master and slave of either channel. -/
def ide_ports : ℕ → IdePort
  | 0 => ⟨.command false, 0⟩
  | 1 => ⟨.control false, 1⟩
  | 2 => ⟨.command true, 0⟩
  | _ => ⟨.control true, 1⟩

/-- Why a call does not come back: a panic, or a `while` that has not ended within the turns looked at. -/
inductive Stop
  | panic (message : String)
  | waiting

/-- `while (status & bit) if (status & ATA_SR_ERR) return TRUE;`, with so many turns looked at. -/
def waitWhile (m : AtaMachine) (b : Block) (bit : UInt8) : ℕ → Channels → Except Stop (Bool × Channels)
  | 0, _ => .error .waiting
  | turns + 1, s =>
      let (c, s) := statusRead m b s
      if c &&& bit ≠ 0 then
        let (c, s) := statusRead m b s
        if c &&& ATA_SR_ERR ≠ 0 then .ok (true, s) else waitWhile m b bit turns s
      else .ok (false, s)

/-- The loop `again`, with `left` of `TimeoutCounter` to go: whether the drive asks for data in time. -/
def pollDrq (m : AtaMachine) (b : Block) : ℕ → Channels → Bool × Channels
  | 0, s => (false, s)
  | left + 1, s =>
      let (c, s) := statusRead m b s
      if c &&& ATA_SR_DRQ = 0 then pollDrq m b left s else (true, s)

/-- `operation_number`, with the buffer that is written. -/
inductive Operation
  | read
  | write (buffer : Sector)

/-- The byte for the drive register: `lba` holds the bits from 24 on. -/
def devselByte (lba devNum : ℕ) : UInt8 :=
  UInt8.ofNat (if devNum = 0 then (lba >>> 24) ||| 0xE0 else (lba >>> 24) ||| 0xF0)

/-- What a call returns: its value, and the words that were read into the buffer. -/
structure Answer where
  status : ℤ
  buffer : List UInt16

/-- The registers of the task file are set and the command is given. -/
def sendCommand (m : AtaMachine) (port : IdePort) (lba : ℕ) (cmd : UInt8) (s : Channels) : Channels :=
  let b := port.base_port
  let s := out8 m b ATA_REG_DEVSEL (devselByte lba port.dev_num) s
  let s := out8 m b ATA_REG_SECCOUNT 1 s
  let s := out8 m b ATA_REG_LBA0 (UInt8.ofNat (lba &&& 0xFF)) s
  let s := out8 m b ATA_REG_LBA1 (UInt8.ofNat ((lba >>> 8) &&& 0xFF)) s
  let s := out8 m b ATA_REG_LBA2 (UInt8.ofNat ((lba >>> 16) &&& 0xFF)) s
  out8 m b ATA_REG_CMD cmd s

/-- `__pio_rw_sector`; `lba` is an `unsigned int`. -/
def pioRwSector (m : AtaMachine) (turns lba : ℕ) (op : Operation) (portIndex : ℕ) (s : Channels) :
    Except Stop (Answer × Channels) :=
  let portIndex := portIndex &&& 0xFF
  if portIndex > 3 then .error (.panic "__pio_rw_sector: We only support 4 ata ports.\n")
  else
    let port := ide_ports portIndex
    let b := port.base_port
    if port.dev_num ≠ 0 ∧ port.dev_num ≠ 1 then .error (.panic "__pio_rw_sector: value?\n")
    else
      match op with
      | .read =>
          let (drq, s) := pollDrq m b 20000 (sendCommand m port lba 0x20 s)
          if drq then
            let (ws, s) := insw m b 256 s
            .ok (⟨0, ws⟩, s)
          else .ok (⟨-3, []⟩, s)
      | .write buffer =>
          let (drq, s) := pollDrq m b 20000 (sendCommand m port lba 0x30 s)
          if drq then do
            let s := outsw m b buffer.1 s
            let (_, s) ← waitWhile m b ATA_SR_BSY turns s
            let s := out8 m b ATA_REG_CMD ATA_CMD_FLUSH_CACHE s
            let (_, s) ← waitWhile m b ATA_SR_BSY turns s
            let (fails, s) ← waitWhile m b ATA_SR_DRQ turns s
            if fails then .ok (⟨-1, []⟩, s) else .ok (⟨0, []⟩, s)
          else .ok (⟨-3, []⟩, s)

/-- `ataReadSector` and `ataWriteSector` apart from their names: the limit is tested on the `unsigned long`. -/
def ataSector (name : String) (m : AtaMachine) (gNumberOfSectorsInBootDisk turns lba : ℕ) (op : Operation)
    (idePort : ℕ) (s : Channels) : Except Stop (Answer × Channels) :=
  if gNumberOfSectorsInBootDisk = 0 then .error (.panic (name ++ ": gNumberOfSectorsInBootDisk\n"))
  else if lba ≥ gNumberOfSectorsInBootDisk then .error (.panic (name ++ ": lba limits\n"))
  else pioRwSector m turns (lba % 2 ^ 32) op idePort s

/-- `ataReadSector`. -/
def ataReadSector (m : AtaMachine) (gNumberOfSectorsInBootDisk turns lba idePort : ℕ) (s : Channels) :
    Except Stop (Answer × Channels) :=
  ataSector "ataReadSector" m gNumberOfSectorsInBootDisk turns lba .read idePort s

/-- `ataWriteSector`. -/
def ataWriteSector (m : AtaMachine) (gNumberOfSectorsInBootDisk turns lba : ℕ) (buffer : Sector) (idePort : ℕ)
    (s : Channels) : Except Stop (Answer × Channels) :=
  ataSector "ataWriteSector" m gNumberOfSectorsInBootDisk turns lba (.write buffer) idePort s

end Gramado.Ata

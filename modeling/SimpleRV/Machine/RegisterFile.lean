import SimpleRV.Machine.Common

namespace SimpleRV

/-!
# Registers, CSRs and the privilege stack

`RegisterFile.h`/`.cpp`, and the part of the trap code of `CPUCore.cpp` that
only touches registers: pushing and popping the interrupt-enable and privilege
bits of `mstatus`.  `sstatus`, `sie` and `sip` are views of `mstatus`, `mie`
and `mip`; the fields of those names in the class are never used.
-/

/-! ## CSR numbers, masks and causes -/

@[match_pattern] abbrev CSR_MVENDORID : CsrAddr := 0xF11#12
@[match_pattern] abbrev CSR_MARCHID : CsrAddr := 0xF12#12
@[match_pattern] abbrev CSR_MIMPID : CsrAddr := 0xF13#12
@[match_pattern] abbrev CSR_MHARTID : CsrAddr := 0xF14#12
@[match_pattern] abbrev CSR_MSTATUS : CsrAddr := 0x300#12
@[match_pattern] abbrev CSR_MISA : CsrAddr := 0x301#12
@[match_pattern] abbrev CSR_MEDELEG : CsrAddr := 0x302#12
@[match_pattern] abbrev CSR_MIDELEG : CsrAddr := 0x303#12
@[match_pattern] abbrev CSR_MIE : CsrAddr := 0x304#12
@[match_pattern] abbrev CSR_MTVEC : CsrAddr := 0x305#12
@[match_pattern] abbrev CSR_MSCRATCH : CsrAddr := 0x340#12
@[match_pattern] abbrev CSR_MEPC : CsrAddr := 0x341#12
@[match_pattern] abbrev CSR_MCAUSE : CsrAddr := 0x342#12
@[match_pattern] abbrev CSR_MTVAL : CsrAddr := 0x343#12
@[match_pattern] abbrev CSR_MIP : CsrAddr := 0x344#12
@[match_pattern] abbrev CSR_SSTATUS : CsrAddr := 0x100#12
@[match_pattern] abbrev CSR_SIE : CsrAddr := 0x104#12
@[match_pattern] abbrev CSR_STVEC : CsrAddr := 0x105#12
@[match_pattern] abbrev CSR_SSCRATCH : CsrAddr := 0x140#12
@[match_pattern] abbrev CSR_SEPC : CsrAddr := 0x141#12
@[match_pattern] abbrev CSR_SCAUSE : CsrAddr := 0x142#12
@[match_pattern] abbrev CSR_STVAL : CsrAddr := 0x143#12
@[match_pattern] abbrev CSR_SIP : CsrAddr := 0x144#12
@[match_pattern] abbrev CSR_SATP : CsrAddr := 0x180#12

abbrev MSTATUS_SIE : Word := 0x00000002#32
abbrev MSTATUS_MIE : Word := 0x00000008#32
abbrev MSTATUS_SPIE : Word := 0x00000020#32
abbrev MSTATUS_MPIE : Word := 0x00000080#32
abbrev MSTATUS_SPP : Word := 0x00000100#32
abbrev MSTATUS_MPP : Word := 0x00001800#32

abbrev PRV_U : Byte := 0#8
abbrev PRV_S : Byte := 1#8
abbrev PRV_M : Byte := 3#8

/-- The bits of `mie` and `mip`; `MIE_xxIE` and `MIP_xxIP` share positions. -/
abbrev MIP_SSIP : Word := 0x00000002#32
abbrev MIP_MSIP : Word := 0x00000008#32
abbrev MIP_STIP : Word := 0x00000020#32
abbrev MIP_MTIP : Word := 0x00000080#32
abbrev MIP_SEIP : Word := 0x00000200#32
abbrev MIP_MEIP : Word := 0x00000800#32

/-- The exceptions that may be delegated: causes 0-9, 12, 13 and 15. -/
abbrev MEDELEG_MASK : Word := 0x0000B3FF#32

/-- The interrupts that may be delegated. -/
abbrev MIDELEG_MASK : Word :=
  MIP_SSIP ||| MIP_MSIP ||| MIP_STIP ||| MIP_MTIP ||| MIP_SEIP ||| MIP_MEIP

/-- The bits of `mstatus` seen through `sstatus`. -/
abbrev SSTATUS_MASK : Word := MSTATUS_SIE ||| MSTATUS_SPIE ||| MSTATUS_SPP

/-- The bits of `mie` and `mip` seen through `sie` and `sip`. -/
abbrev SIE_MASK : Word := MIP_SSIP ||| MIP_STIP ||| MIP_SEIP

abbrev MCAUSE_ILLEGAL : Word := 2#32
abbrev MCAUSE_LOAD_MISALIGNED : Word := 4#32
abbrev MCAUSE_STORE_MISALIGNED : Word := 6#32
abbrev MCAUSE_ECALL_U : Word := 8#32
abbrev MCAUSE_ECALL_S : Word := 9#32
abbrev MCAUSE_ECALL_M : Word := 11#32
abbrev MCAUSE_INST_PAGE_FAULT : Word := 12#32
abbrev MCAUSE_LOAD_PAGE_FAULT : Word := 13#32
abbrev MCAUSE_STORE_PAGE_FAULT : Word := 15#32
abbrev MCAUSE_SSI_INT : Word := 0x80000001#32
abbrev MCAUSE_MSI_INT : Word := 0x80000003#32
abbrev MCAUSE_STI_INT : Word := 0x80000005#32
abbrev MCAUSE_TIMER_INT : Word := 0x80000007#32
abbrev MCAUSE_SEI_INT : Word := 0x80000009#32
abbrev MCAUSE_MEI_INT : Word := 0x8000000B#32

abbrev MISA_RV32I : Word := 0x40000104#32

/-! ## The register file -/

structure RegisterFile where
  gpr : RegNum -> Word := fun _ => 0
  mstatus : Word := 0
  mepc : Word := 0
  mtvec : Word := 0
  mcause : Word := 0
  mie : Word := 0
  mip : Word := 0
  mtval : Word := 0
  mscratch : Word := 0
  medeleg : Word := 0
  mideleg : Word := 0
  sepc : Word := 0
  stvec : Word := 0
  scause : Word := 0
  stval : Word := 0
  sscratch : Word := 0
  satp : Word := 0
  privilege : Byte := PRV_M

namespace RegisterFile

/-- The read port `read_rs1`: `x0` reads as zero whatever the array holds. -/
def readRs1 (regFile : RegisterFile) (rs1 : RegNum) : Word :=
  if rs1 = 0 then 0 else regFile.gpr rs1

/-- The write port `write_rd`. -/
def writeRd (regFile : RegisterFile) (rd : RegNum) (data : Word) (regWrite : Bool) : RegisterFile :=
  if regWrite && rd != 0 then
    { regFile with gpr := fun index => if index = rd then data else regFile.gpr index }
  else regFile

def readCsr (regFile : RegisterFile) (csr : CsrAddr) : Word :=
  match csr with
  | CSR_MVENDORID => 0
  | CSR_MARCHID => 0
  | CSR_MIMPID => 1
  | CSR_MHARTID => 0
  | CSR_MSTATUS => regFile.mstatus
  | CSR_MISA => MISA_RV32I
  | CSR_MEDELEG => regFile.medeleg
  | CSR_MIDELEG => regFile.mideleg
  | CSR_MIE => regFile.mie
  | CSR_MTVEC => regFile.mtvec
  | CSR_MSCRATCH => regFile.mscratch
  | CSR_MEPC => regFile.mepc
  | CSR_MCAUSE => regFile.mcause
  | CSR_MTVAL => regFile.mtval
  | CSR_MIP => regFile.mip
  | CSR_SSTATUS => regFile.mstatus &&& SSTATUS_MASK
  | CSR_SIE => regFile.mie &&& SIE_MASK
  | CSR_STVEC => regFile.stvec
  | CSR_SSCRATCH => regFile.sscratch
  | CSR_SEPC => regFile.sepc
  | CSR_SCAUSE => regFile.scause
  | CSR_STVAL => regFile.stval
  | CSR_SIP => regFile.mip &&& SIE_MASK
  | CSR_SATP => regFile.satp
  | _ => 0

/-- The view rule of `write_csr`: only the bits of `mask` are taken from `data`. -/
def mergeBits (old data mask : Word) : Word :=
  (old &&& ~~~mask) ||| (data &&& mask)

def writeCsr (regFile : RegisterFile) (csr : CsrAddr) (data : Word) : RegisterFile :=
  match csr with
  | CSR_MSTATUS => { regFile with mstatus := data }
  | CSR_MISA => regFile
  | CSR_MEDELEG => { regFile with medeleg := data &&& MEDELEG_MASK }
  | CSR_MIDELEG => { regFile with mideleg := data &&& MIDELEG_MASK }
  | CSR_MIE => { regFile with mie := data }
  | CSR_MTVEC => { regFile with mtvec := data }
  | CSR_MSCRATCH => { regFile with mscratch := data }
  | CSR_MEPC => { regFile with mepc := data }
  | CSR_MCAUSE => { regFile with mcause := data }
  | CSR_MTVAL => { regFile with mtval := data }
  | CSR_MIP => { regFile with mip := mergeBits regFile.mip data MIP_MSIP }
  | CSR_SSTATUS => { regFile with mstatus := mergeBits regFile.mstatus data SSTATUS_MASK }
  | CSR_SIE => { regFile with mie := mergeBits regFile.mie data SIE_MASK }
  | CSR_STVEC => { regFile with stvec := data }
  | CSR_SSCRATCH => { regFile with sscratch := data }
  | CSR_SEPC => { regFile with sepc := data }
  | CSR_SCAUSE => { regFile with scause := data }
  | CSR_STVAL => { regFile with stval := data }
  | CSR_SIP => { regFile with mip := mergeBits regFile.mip data MIP_SSIP }
  | CSR_SATP => { regFile with satp := data }
  | _ => regFile

/-- Is any bit of `mask` set in `value`?  The C++ test `value & mask`. -/
def hasBit (value mask : Word) : Bool :=
  value &&& mask != 0

/-- The hardware side of `mip.MTIP`. -/
def hwSetMtip (regFile : RegisterFile) (set : Bool) : RegisterFile :=
  if set then { regFile with mip := regFile.mip ||| MIP_MTIP }
  else { regFile with mip := regFile.mip &&& ~~~MIP_MTIP }

def interruptDelegated (regFile : RegisterFile) (interruptCause : Word) : Bool :=
  match interruptCause &&& 0xF#32 with
  | 1#32 => hasBit regFile.mideleg MIP_SSIP
  | 3#32 => hasBit regFile.mideleg MIP_MSIP
  | 5#32 => hasBit regFile.mideleg MIP_STIP
  | 7#32 => hasBit regFile.mideleg MIP_MTIP
  | 9#32 => hasBit regFile.mideleg MIP_SEIP
  | 11#32 => hasBit regFile.mideleg MIP_MEIP
  | _ => false

def exceptionDelegated (regFile : RegisterFile) (exceptionCause : Word) : Bool :=
  if exceptionCause >= 16#32 then false
  else hasBit regFile.medeleg (1#32 <<< exceptionCause)

/-! ## Trap entry and return -/

/-- `SPIE := SIE`, `SIE := 0`, `SPP := prv`, written through `sstatus`. -/
def pushSstatus (regFile : RegisterFile) (prv : Byte) : RegisterFile :=
  let sstatusVal := regFile.readCsr CSR_SSTATUS
  let sstatusNew := sstatusVal &&& ~~~MSTATUS_SIE
  let sstatusNew :=
    if hasBit sstatusVal MSTATUS_SIE then sstatusNew ||| MSTATUS_SPIE
    else sstatusNew &&& ~~~MSTATUS_SPIE
  let sstatusNew := (sstatusNew &&& ~~~MSTATUS_SPP) ||| (prv.setWidth 32 <<< 8)
  regFile.writeCsr CSR_SSTATUS sstatusNew

/-- `MPIE := MIE`, `MIE := 0`, `MPP := prv`. -/
def pushMstatus (regFile : RegisterFile) (prv : Byte) : RegisterFile :=
  let mstatusVal := regFile.readCsr CSR_MSTATUS
  let mstatusNew := mstatusVal &&& ~~~MSTATUS_MIE
  let mstatusNew := (mstatusNew &&& ~~~MSTATUS_MPIE) |||
    (if hasBit mstatusVal MSTATUS_MIE then MSTATUS_MPIE else 0)
  let mstatusNew := (mstatusNew &&& ~~~MSTATUS_MPP) ||| (prv.setWidth 32 <<< 11)
  regFile.writeCsr CSR_MSTATUS mstatusNew

/-- The register effects of `CPUCore::handleTrap`, and the vector it jumps to. -/
def handleTrap (regFile : RegisterFile) (faultPc causeVal tvalVal : Word) : RegisterFile × Addr :=
  let prv := regFile.privilege
  let delegated := regFile.exceptionDelegated causeVal
  if delegated && prv != PRV_M then
    let regFile := regFile.pushSstatus prv
    let regFile := regFile.writeCsr CSR_SEPC faultPc
    let regFile := regFile.writeCsr CSR_SCAUSE causeVal
    let regFile := regFile.writeCsr CSR_STVAL tvalVal
    let regFile := { regFile with privilege := PRV_S }
    (regFile, regFile.readCsr CSR_STVEC)
  else
    let regFile := regFile.pushMstatus prv
    let regFile := regFile.writeCsr CSR_MEPC faultPc
    let regFile := regFile.writeCsr CSR_MCAUSE causeVal
    let regFile := regFile.writeCsr CSR_MTVAL tvalVal
    let regFile := { regFile with privilege := PRV_M }
    (regFile, regFile.readCsr CSR_MTVEC)

/-- The register effects of taking an interrupt, and the vector it jumps to. -/
def enterInterrupt (regFile : RegisterFile) (pc cause : Word) : RegisterFile × Addr :=
  let prv := regFile.privilege
  let delegated := regFile.interruptDelegated cause
  if delegated || prv != PRV_M then
    let regFile := regFile.pushSstatus prv
    let regFile := regFile.writeCsr CSR_SEPC pc
    let regFile := regFile.writeCsr CSR_SCAUSE cause
    let regFile := { regFile with privilege := PRV_S }
    (regFile, regFile.readCsr CSR_STVEC)
  else
    let regFile := regFile.pushMstatus prv
    let regFile := regFile.writeCsr CSR_MEPC pc
    let regFile := regFile.writeCsr CSR_MCAUSE cause
    let regFile := { regFile with privilege := PRV_M }
    (regFile, regFile.readCsr CSR_MTVEC)

/-- The register effects of MRET, and the address it returns to. -/
def mret (regFile : RegisterFile) : RegisterFile × Addr :=
  let mstatusVal := regFile.readCsr CSR_MSTATUS
  let mpp : Byte := ((mstatusVal &&& MSTATUS_MPP) >>> 11).setWidth 8
  let mstatusNew := mstatusVal &&& ~~~MSTATUS_MIE
  let mstatusNew :=
    if hasBit mstatusVal MSTATUS_MPIE then mstatusNew ||| MSTATUS_MIE else mstatusNew
  let mstatusNew := mstatusNew ||| MSTATUS_MPIE
  let mstatusNew := mstatusNew &&& ~~~MSTATUS_MPP
  let regFile := regFile.writeCsr CSR_MSTATUS mstatusNew
  let regFile := { regFile with privilege := mpp }
  (regFile, regFile.readCsr CSR_MEPC)

/-- The register effects of SRET, and the address it returns to. -/
def sret (regFile : RegisterFile) : RegisterFile × Addr :=
  let sstatusVal := regFile.readCsr CSR_SSTATUS
  let spp := if hasBit sstatusVal MSTATUS_SPP then PRV_S else PRV_U
  let sstatusNew := sstatusVal &&& ~~~MSTATUS_SIE
  let sstatusNew :=
    if hasBit sstatusVal MSTATUS_SPIE then sstatusNew ||| MSTATUS_SIE else sstatusNew
  let sstatusNew := sstatusNew ||| MSTATUS_SPIE
  let sstatusNew := sstatusNew &&& ~~~MSTATUS_SPP
  let regFile := regFile.writeCsr CSR_SSTATUS sstatusNew
  let regFile := { regFile with privilege := spp }
  (regFile, regFile.readCsr CSR_SEPC)

/-- The cause of an ECALL in the current mode. -/
def ecallCause (regFile : RegisterFile) : Word :=
  if regFile.privilege = PRV_M then MCAUSE_ECALL_M
  else if regFile.privilege = PRV_S then MCAUSE_ECALL_S
  else MCAUSE_ECALL_U

end RegisterFile

end SimpleRV

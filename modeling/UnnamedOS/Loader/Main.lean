import UnnamedOS.Kernel.Bootstrap
import UnnamedOS.Loader.SegmentLoading

namespace UnnamedOS.Loader

open UnnamedOS.Data

/-! # The whole loader

`main` in the build for the test harness: an error is a line on the serial port
and the failure code, and there is no way back to the firmware. -/

def PageTableLoadError.marker : PageTableLoadError → String
  | .plan => "UNOS:P1J:FAIL:PLAN"
  | .allocate => "UNOS:P1J:FAIL:ALLOC"
  | .materialize => "UNOS:P1J:FAIL:MATERIALIZE"
  | .verify => "UNOS:P1J:FAIL:VERIFY"
  | .reserve => "UNOS:P1J:FAIL:RESERVATION"

def BootInfoLoadError.marker : BootInfoLoadError → String
  | .gop => "UNOS:P1G:FAIL:GOP"
  | .alloc => "UNOS:P1G:FAIL:ALLOC"
  | .map => "UNOS:P1G:FAIL:MAP"
  | .convert => "UNOS:P1G:FAIL:CONVERT"
  | .reservation => "UNOS:P1G:FAIL:RESERVATION"
  | .framebuffer => "UNOS:P1G:FAIL:FRAMEBUFFER"
  | .bootInfo => "UNOS:P1G:FAIL:BOOTINFO"
  | .pageTable error => error.marker
  | .cpuPolicy => "UNOS:P1J:FAIL:CPU_POLICY"
  | .cr3Stability => "UNOS:P1J:FAIL:CR3_STABILITY"

def SegmentLoadError.marker : SegmentLoadError → String
  | .plan => "UNOS:P1E:FAIL:PLAN"
  | .sourceOverlap => "UNOS:P1E:FAIL:SOURCE_OVERLAP"
  | .alloc => "UNOS:P1E:FAIL:ALLOC"
  | .zero => "UNOS:P1E:FAIL:ZERO"
  | .copy => "UNOS:P1E:FAIL:COPY"
  | .verify => "UNOS:P1E:FAIL:VERIFY"
  | .free => "UNOS:P1E:FAIL:FREE"
  | .ownership => "UNOS:P1F:FAIL:OWNERSHIP"
  | .metadata => "UNOS:P1F:FAIL:METADATA"
  | .sourceFree => "UNOS:P1F:FAIL:SOURCE_FREE"
  | .ownershipProbe => "UNOS:P1F:FAIL:OWNERSHIP_PROBE"
  | .bootInfo error => error.marker

/-- An error of either half. -/
inductive LoaderError where
  | kernel (error : KernelLoadError)
  | segments (error : SegmentLoadError)
deriving DecidableEq, Repr

def LoaderError.marker : LoaderError → String
  | .kernel error => error.marker
  | .segments error => error.marker

section

variable {φ : Type} (firmware : Firmware φ) (features : TestFeatures)

/-- The body of `main`, with its errors still returned. -/
def loadKernel : Program (Machine φ) (Stop LoaderError) (CapturedMapMeta × KernelArguments) := do
  writeLine "UNOS:P1C:ENTRY"
  writeLine "UNOS:P1C:UEFI_OK"
  writeLine "UNOS:P1C:PASS"
  let kernel ← returning .kernel (loadAndValidate firmware)
  writeLine "UNOS:P1D:PASS"
  returning .segments (loadVerifyAndRelease firmware features kernel)

def main : Program (Machine φ) BootStop (CapturedMapMeta × KernelArguments) := do
  let outcome ← (loadKernel firmware features).attempt
  match outcome with
  | .ok started => pure started
  | .error .failed => .stop .failed
  | .error (.returned error) => failWith error.marker

end

end UnnamedOS.Loader

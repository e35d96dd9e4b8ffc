import CounterCatalog.Report
import CounterCatalog.System.Script

set_option autoImplicit false

def main (arguments : List String) : IO Unit := do
  let flag ← IO.getEnv "PDH_UTIL_ASCII"
  let report := CounterCatalog.Report.lines .plain (.ofFlag flag) arguments
  let nothing : CounterCatalog.Script := {}
  IO.print (CounterCatalog.Report.text (report.run nothing.system []).value)

import DftTaxonomy.Rules.Load

/-!
# The bundled rule tables

The rule tables that ship with the library, for VASP and for CP2K, as TOML
text, and loaded under their schemes with the origins `rules/vasp.toml` and
`rules/cp2k.toml`.

VASP run types are decided by the INCAR tags reported by the run (`GGA`,
`METAGGA`, `LHFCALC`, `AEXX`, `LUSE_VDW`, …), with the classes tried in the
order HF, VDW, METAGGA, GGA.  CP2K run types are decided by the functional
section names (`FUNCTIONAL`), the exact-exchange fraction (`FRACTION`, zero
without exact exchange) and the exact-exchange potential
(`INTERACTION_POTENTIAL`); its classes are tried as written, and the
fraction keeps them apart.
-/

namespace DftTaxonomy

namespace RuleTable

/-- The VASP rule table, as TOML. -/
def vaspText : String := "[GGA.AM05]
GGA = \"AM\"

[GGA.GGA]
GGA = \"--\"

[GGA.PBE]
GGA = \"PE\"

[GGA.PBEsol]
GGA = \"PS\"

[GGA.PW91]
GGA = \"91\"

[GGA.RPBE]
GGA = \"RP\"

[GGA.revPBE]
GGA = \"RE\"

[HF.B3LYP]
AEXX = 0.2
AGGAC = 0.81
AGGAX = 0.72
ALDAC = 0.19
GGA = \"B3\"
LHFCALC = true

[HF.HF]
AEXX = 1.0
AGGAC = 0.0
AGGAX = 1.0
ALDAC = 0.0
LHFCALC = true

[HF.HSE03]
AEXX = 0.25
AGGAC = 1.0
AGGAX = 0.75
ALDAC = 1.0
HFSCREEN = 0.3
LHFCALC = true

[HF.HSE06]
AEXX = 0.25
AGGAC = 1.0
AGGAX = 0.75
ALDAC = 1.0
HFSCREEN = 0.2
LHFCALC = true

[HF.PBE0]
AEXX = 0.25
AGGAC = 1.0
AGGAX = 0.75
ALDAC = 1.0
HFSCREEN = 0.0
LHFCALC = true

[HF.HFCus]
LHFCALC = true

[METAGGA.M06L]
METAGGA = \"M06L\"

[METAGGA.MBJL]
METAGGA = \"MBJL\"

[METAGGA.MS0]
METAGGA = \"MS0\"

[METAGGA.MS1]
METAGGA = \"MS1\"

[METAGGA.MS2]
METAGGA = \"MS2\"

[METAGGA.RTPSS]
METAGGA = \"RTPSS\"

[METAGGA.SCAN]
METAGGA = \"SCAN\"

[METAGGA.r2SCAN]
METAGGA = \"R2SCAN\"

[METAGGA.TPSS]
METAGGA = \"TPSS\"

[VDW.optB86b]
AGGAC = 0.0
GGA = \"MK\"
LUSE_VDW = true
PARAM1 = 0.1234
PARAM2 = 1.0

[VDW.optB88]
AGGAC = 0.0
GGA = \"BO\"
LUSE_VDW = true
PARAM1 = 0.18333
PARAM2 = 0.22

[VDW.optPBE]
AGGAC = 0.0
GGA = \"OR\"
LUSE_VDW = true

[VDW.rev-vdW-DF2]
AGGAC = 0.0
GGA = \"MK\"
LUSE_VDW = true
PARAM1 = 0.1234
PARAM2 = 0.711357
ZAB_VDW = -1.8867

[VDW.rVV10]
BPARAM = 15.7
GGA = \"ML\"
LASPH = true
LUSE_VDW = true

[VDW.\"SCAN+rVV10\"]
BPARAM = 15.7
LUSE_VDW = true
METAGGA = \"SCAN\"

[VDW.\"r2SCAN+rVV10\"]
BPARAM = 11.95
LUSE_VDW = true
METAGGA = \"R2SCAN\"

[VDW.vdW-DF]
AGGAC = 0.0
GGA = \"RE\"
LUSE_VDW = true

[VDW.vdW-DF2]
AGGAC = 0.0
GGA = \"ML\"
LUSE_VDW = true
ZAB_VDW = -1.8867
"

/-- The CP2K rule table, as TOML. -/
def cp2kText : String := "[HYBRID.PBE0]
FUNCTIONAL = \"PBE\"
FRACTION = 0.25
INTERACTION_POTENTIAL = \"COULOMB\"

[HYBRID.PBE0_TC]
FUNCTIONAL = \"PBE\"
FRACTION = 0.25
INTERACTION_POTENTIAL = \"TRUNCATED\"

[HYBRID.HSE06]
FUNCTIONAL = \"PBE\"
FRACTION = 0.25
INTERACTION_POTENTIAL = \"SHORTRANGE\"

[HYBRID.B3LYP]
FUNCTIONAL = \"B3LYP\"
FRACTION = 0.2

[HYBRID.HF]
FUNCTIONAL = \"NONE\"
FRACTION = 1.0

[METAGGA.TPSS]
FUNCTIONAL = \"TPSS\"
FRACTION = 0

[METAGGA.SCAN]
FUNCTIONAL = \"SCAN\"
FRACTION = 0

[GGA.PBE]
FUNCTIONAL = \"PBE\"
FRACTION = 0

[GGA.PBESOL]
FUNCTIONAL = \"PBESOL\"
FRACTION = 0

[GGA.BLYP]
FUNCTIONAL = \"BLYP\"
FRACTION = 0

[GGA.BP]
FUNCTIONAL = \"BP\"
FRACTION = 0

[GGA.OLYP]
FUNCTIONAL = \"OLYP\"
FRACTION = 0

[GGA.HCTH120]
FUNCTIONAL = \"HCTH120\"
FRACTION = 0

[LDA.PADE]
FUNCTIONAL = \"PADE\"
FRACTION = 0

[LDA.LDA]
FUNCTIONAL = \"LDA\"
FRACTION = 0
"

/-- The bundled VASP table. -/
def vasp : Except RuleTableError RuleTable := load "rules/vasp.toml" vaspText Scheme.vasp

/-- The bundled CP2K table. -/
def cp2k : Except RuleTableError RuleTable := load "rules/cp2k.toml" cp2kText Scheme.cp2k

/-- The bundled table of a scheme's code. -/
def bundled (scheme : Scheme) : Except RuleTableError RuleTable :=
  if scheme.code == "cp2k" then cp2k else vasp

end RuleTable

end DftTaxonomy

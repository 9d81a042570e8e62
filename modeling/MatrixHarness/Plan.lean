import MatrixHarness.CommandLine.Quoting

/-! # Plans

The variants of the matrix, and for each the configuration of its pass: which server and which
test-runner to start, and with what arguments. -/
namespace MatrixHarness

/-- A way of transport under test: a name, and what the test-runner is told to use it. -/
structure Variant where
  name : String
  arguments : List String
  deriving DecidableEq, Inhabited

/-- The matrix, in the order of its passes. -/
def Variant.builtIn : List Variant := [⟨"default",[]⟩,⟨"udp",["-U"]⟩]

/-- All that one pass needs. -/
structure PassConfig where
  server : RawText
  serverArguments : List RawText
  testRunner : RawText
  fast : Bool
  variant : Variant
  deriving DecidableEq, Inhabited

/-- What all passes share. -/
structure MatrixSettings where
  server : RawText
  testRunner : RawText
  smp : UInt32
  fast : Bool
  deriving DecidableEq, Inhabited

namespace MatrixSettings

/-- The hint of concurrency, unless told otherwise. -/
def defaultSmp : UInt32 := 2

end MatrixSettings

namespace Plan

def serverCommandLine (server : RawText) (arguments : List RawText) : CommandLine :=
  server :: arguments

def testRunnerCommandLine (testRunner : RawText) (arguments : List String) (fast : Bool) :
    CommandLine :=
  testRunner :: arguments.map RawText.ofString ++ if fast then [RawText.ofString "--fast"] else []

/-- How a server is told of the hint. -/
def serverArguments (smp : UInt32) : List RawText :=
  [RawText.ofString ("--smp=" ++ toString smp.toNat)]

def configFor (s : MatrixSettings) (v : Variant) : PassConfig where
  server := s.server
  serverArguments := serverArguments s.smp
  testRunner := s.testRunner
  fast := s.fast
  variant := v

/-- One configuration for each variant, in order; there is no plan for no variants. -/
def make? (s : MatrixSettings) (variants : List Variant) : Option (List PassConfig) :=
  if variants.isEmpty then none else some (variants.map (configFor s))

end Plan

namespace PassConfig

def serverCommandLine (c : PassConfig) : CommandLine :=
  Plan.serverCommandLine c.server c.serverArguments

def testRunnerCommandLine (c : PassConfig) : CommandLine :=
  Plan.testRunnerCommandLine c.testRunner c.variant.arguments c.fast

end PassConfig
end MatrixHarness

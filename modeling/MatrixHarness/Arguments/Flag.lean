import MatrixHarness.Arguments.Marked
import MatrixHarness.Message

/-! # Flags

The flags of the program, in the order in which help shows them. -/
namespace MatrixHarness.Arguments

inductive Flag where
  | lang
  | memcached
  | fast
  | testRunner
  | smp
  | config
  | help
  | version
  deriving DecidableEq

namespace Flag

def all : List Flag := [lang,memcached,fast,testRunner,smp,config,help,version]

theorem mem_all (f : Flag) : f ∈ all := by cases f <;> decide

def name : Flag → String
  | lang => "lang"
  | memcached => "memcached"
  | fast => "fast"
  | testRunner => "test-runner"
  | smp => "smp"
  | config => "config"
  | help => "help"
  | version => "version"

def letter? : Flag → Option Char
  | config => some 'c'
  | help => some 'h'
  | version => some 'V'
  | _ => none

/-- What its value is called, if it takes one. -/
def valueName? : Flag → Option String
  | lang => some "LANGUAGE"
  | memcached => some "PATH"
  | testRunner => some "PATH"
  | smp => some "N"
  | config => some "CONFIG"
  | _ => none

def takesValue (f : Flag) : Bool := f.valueName?.isSome

def ofName? (name : String) : Option Flag := all.find? (·.name == name)

def ofLetter? (c : Char) : Option Flag := all.find? (·.letter? == some c)

@[simp] theorem ofName?_name (f : Flag) : ofName? f.name = some f := by cases f <;> decide

def placeholder (f : Flag) : String :=
  match f.valueName? with
  | some v => " <" ++ v ++ ">"
  | none => ""

def shown (f : Flag) : String := "--" ++ f.name ++ f.placeholder

def marked (f : Flag) : Marked := [(.literal,"--" ++ f.name),plain f.placeholder]

theorem text_marked (f : Flag) : f.marked.text = f.shown := by cases f <;> decide

def about (locale : String) : Flag → String
  | lang => Message.langHelp.text locale
  | memcached => Message.memcachedHelp.text locale
  | fast => Message.fastHelp.text locale
  | testRunner => Message.testRunnerHelp.text locale
  | smp => Message.smpHelp.text locale
  | config => Message.configHelp.text locale
  | help => "Print help"
  | version => "Print version"

end Flag
end MatrixHarness.Arguments

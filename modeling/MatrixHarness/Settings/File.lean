import MatrixHarness.Failure
import MatrixHarness.Settings

/-! # The settings file -/
namespace MatrixHarness.Settings

/-- Why a file gives no settings. -/
inductive LoadFailure where
  | unreadable (path : RawText) (error : IoError)
  /-- The file holds this text, which holds no settings. -/
  | malformed (path : RawText) (source : String) (why : Unreadable)

def LoadFailure.message : LoadFailure → Message
  | unreadable path _ => .settingsUnreadable path.lossy
  | malformed path _ _ => .settingsMalformed path.lossy

def LoadFailure.cause : LoadFailure → Account
  | unreadable _ e => .io e
  | malformed _ source why => .worded (why.text source)

def LoadFailure.trail (locale : String) (f : LoadFailure) : Trail :=
  (Trail.ofAccount f.cause).within (.worded (f.message.text locale))

def ofContents (path contents : RawText) : Except LoadFailure Settings :=
  match contents.text? with
  | none => .error (.unreadable path .notText)
  | some text =>
    match read text with
    | .ok s => .ok s
    | .error why => .error (.malformed path text why)

def load (contentsOf : RawText → Except IoError RawText) (path : RawText) :
    Except LoadFailure Settings :=
  match contentsOf path with
  | .error e => .error (.unreadable path e)
  | .ok contents => ofContents path contents

end MatrixHarness.Settings

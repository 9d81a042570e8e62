import MatrixHarness.Environment

/-! # Locales

Which of the bundled languages a request or the system's settings lead to. -/
namespace MatrixHarness.Locale

def bundled : List String := ["en","zh-CN"]

def fallback : String := "en"

def upTo (stop : Char → Bool) (s : String) : String :=
  String.ofList (s.toList.takeWhile fun c => !stop c)

/-- The language of a bundled locale: its text before the first `-`. -/
def primary (locale : String) : String := upTo (· == '-') locale

/-- The language of a request, which may also be written with `_`. -/
def requestedPrimary (requested : String) : String := upTo (fun c => c == '-' || c == '_') requested

/-- The bundled locale for a request: itself, else the first of the same language, else English. -/
def resolveIn (bundled : List String) (requested : String) : String :=
  if requested ∈ bundled then requested
  else (bundled.find? fun l => primary l == requestedPrimary requested).getD fallback

def resolve (requested : String) : String := resolveIn bundled requested

/-- A system setting such as `zh_CN.UTF-8` as a locale. -/
def ofSetting (setting : String) : String :=
  String.ofList (((setting.toList.takeWhile fun c => c != '.' && c != '@')).map fun c =>
    if c = '_' then '-' else c)

/-- The locale of the system: the first language of `LANGUAGE`, else the settings for all
categories, for messages, and the general one. -/
def ofEnvironment? (env : Environment) : Option String :=
  let first := (env.text? "LANGUAGE").map (upTo (· == ':'))
  let setting := first
    <|> env.text? "LC_ALL"
    <|> env.text? "LC_MESSAGES"
    <|> env.text? "LANG"
  setting.map ofSetting

/-- The locale to speak: an explicit choice wins over the system's. -/
def choose (explicit : Option String) (env : Environment) : String :=
  resolve ((explicit <|> ofEnvironment? env).getD fallback)

end MatrixHarness.Locale

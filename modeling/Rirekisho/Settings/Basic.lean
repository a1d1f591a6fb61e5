import Rirekisho.Font
import Rirekisho.Schema.Simple
import Rirekisho.Value.Label

namespace Rirekisho

/-- The page: its size and margin in millimetres, and the title of the document. -/
structure PageSettings where
  width : Float := 210.0
  height : Float := 297.0
  margin : Float := 12.7
  title : String := "CV"
  deriving Repr

/-- The faces: a directory, and the name of a file in it for each face. -/
structure FontSettings where
  directory : Path := Path.ofText "fonts"
  faces : List (String × String) := [("mincho", "ipaexm.ttf"), ("gothic", "ipaexg.ttf")]
  deriving Repr

/-- The photo: its file, and how many of its pixels go into an inch. -/
structure PhotoSettings where
  path : Path := Path.ofText "photo.jpg"
  resolution : Float := 75.0
  deriving Repr

/-- The log: the name of its level, and a file that it may go to. -/
structure LogSettings where
  level : String := "INFO"
  toFile : Bool := false
  file : String := "yaml_cv.log"
  deriving Repr

/-- The settings of a run. -/
structure Settings where
  page : PageSettings := {}
  fonts : FontSettings := {}
  photo : PhotoSettings := {}
  log : LogSettings := {}
  deriving Repr

/-- The sections of the settings. -/
inductive Section where
  | page
  | fonts
  | photo
  | log
  deriving Repr, DecidableEq

namespace Section

/-- Every section, in order. -/
def all : List Section := [.page, .fonts, .photo, .log]

/-- The name of a section. -/
def name : Section → String
  | .page => "page"
  | .fonts => "fonts"
  | .photo => "photo"
  | .log => "logging"

/-- The names of the fields of a section. -/
def fields : Section → List String
  | .page => ["width_mm", "height_mm", "margin_mm", "title"]
  | .fonts => ["font_dir", "faces"]
  | .photo => ["path", "dpi"]
  | .log => ["log_level", "log_to_file", "log_file"]

end Section

/-- The faces with their files. -/
def FontSettings.registry (fonts : FontSettings) : FontRegistry :=
  .ofList (fonts.faces.map fun (name, file) => (name, fonts.directory.join (Path.ofText file)))

namespace Schema

/-- The section of the page. -/
def pageOf (entries : Entries) : Checked PageSettings :=
  let usual : PageSettings := {}
  PageSettings.mk <$> entries.optional "width_mm" usual.width number <*>
    entries.optional "height_mm" usual.height number <*>
    entries.optional "margin_mm" usual.margin number <*>
    entries.optional "title" usual.title text

/-- A face and its file. -/
def face (entry : Value × Value) : Checked (String × String) :=
  let place := entry.1.label
  Prod.mk <$> ((text entry.1).within "[key]").within place <*> (text entry.2).within place

/-- The faces, one after the other. -/
def faceList : Entries → Checked (List (String × String))
  | [] => .valid []
  | entry :: rest => List.cons <$> face entry <*> faceList rest

/-- The faces with their files, in order, each face once. -/
def faces : Value → Checked (List (String × String))
  | .map entries => FontRegistry.registerAll <$> faceList entries
  | _ => .problem "Input should be a valid dictionary"

/-- The section of the faces. -/
def fontsOf (entries : Entries) : Checked FontSettings :=
  let usual : FontSettings := {}
  FontSettings.mk <$> entries.optional "font_dir" usual.directory path <*>
    entries.optional "faces" usual.faces faces

/-- The section of the photo. -/
def photoOf (entries : Entries) : Checked PhotoSettings :=
  let usual : PhotoSettings := {}
  PhotoSettings.mk <$> entries.optional "path" usual.path path <*>
    entries.optional "dpi" usual.resolution number

/-- The section of the log. -/
def logOf (entries : Entries) : Checked LogSettings :=
  let usual : LogSettings := {}
  LogSettings.mk <$> entries.optional "log_level" usual.level text <*>
    entries.optional "log_to_file" usual.toFile truth <*>
    entries.optional "log_file" usual.file text

/-- The names of entries that no section has. -/
def strangers (entries : Entries) : List String :=
  (entries.map (·.1.label)).filter fun name => !(Section.all.map Section.name).contains name

/-- The settings. Nothing but the sections may stand beside them. -/
def settingsOf (entries : Entries) : Checked Settings :=
  let known := Settings.mk <$>
    entries.optional Section.page.name {} (entriesOf "PageConfig" pageOf) <*>
    entries.optional Section.fonts.name {} (entriesOf "FontConfig" fontsOf) <*>
    entries.optional Section.photo.name {} (entriesOf "PhotoConfig" photoOf) <*>
    entries.optional Section.log.name {} (entriesOf "LoggingConfig" logOf)
  match strangers entries with
  | [] => known
  | names =>
    (fun settings (_ : Unit) => settings) <$> known <*>
      .invalid (names.map fun name => ⟨[name], "Extra inputs are not permitted"⟩)

end Schema

end Rirekisho

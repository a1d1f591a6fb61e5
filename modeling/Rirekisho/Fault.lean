import Rirekisho.Numeral.Literal
import Rirekisho.Problem
import Rirekisho.Storage.Disk

namespace Rirekisho

/-- The families of faults. Grammar, value and structure are families of script faults, and data is
one of resource faults. -/
inductive Family where
  | general
  | script
  | grammar
  | value
  | structural
  | variable
  | font
  | resource
  | data
  deriving Repr, DecidableEq

namespace Family

/-- The fault is one of the script. -/
def isScript : Family → Bool
  | .script | .grammar | .value | .structural => true
  | _ => false

/-- The fault is one of a file. -/
def isResource : Family → Bool
  | .resource | .data => true
  | _ => false

end Family

/-- What a field of a script should have been. -/
inductive Expectation where
  | length
  | integer
  | count
  | number
  | truth
  | face
  | lineStyle
  deriving Repr, DecidableEq

/-- The words for what a field should have been. -/
def Expectation.text : Expectation → String
  | .length => "长度"
  | .integer => "整数"
  | .count => "非负整数"
  | .number => "数值"
  | .truth => "布尔值"
  | .face => "字体名"
  | .lineStyle => "线型(solid/dashed)"

/-- The cause of a fault. -/
inductive Fault where
  | unknownCommand (word : String)
  | missingField
  | malformed (expected : Expectation) (raw : String)
  | noPoints
  | pointCount (points declared : Nat)
  | emptyPolyline
  | imageSize (width height : String)
  | closedPage (page : Nat)
  | unknownVariable (value : String)
  | listAsText (value : String)
  | textAsList (value : String)
  | noList (value : String)
  | unregisteredFont (name : String) (available : List String)
  | unreadableScript (path : Path) (reason : SystemFault)
  | unreadableData (path : Path) (reason : SystemFault)
  | dataFormat (path : Path) (reason : String)
  | dataNotMapping (path : Path)
  | dataFields (path : Path) (problems : List Problem)
  | missingFont (name : String) (path : Path)
  | unloadableFont (name : String) (path : Path) (reason : String)
  | missingPhoto (path : Path)
  | unreadablePhoto (path : Path) (reason : String)
  | unwritable (path : Path) (reason : SystemFault)
  deriving Repr, DecidableEq

namespace Fault

/-- The family of a fault. -/
def family : Fault → Family
  | .unknownCommand _ | .missingField => .grammar
  | .malformed .. => .value
  | .noPoints | .pointCount .. | .emptyPolyline | .imageSize .. | .closedPage _ => .structural
  | .unknownVariable _ | .listAsText _ | .textAsList _ | .noList _ => .variable
  | .unregisteredFont .. => .font
  | .unreadableScript .. | .unreadableData .. | .missingFont .. | .unloadableFont ..
  | .missingPhoto _ | .unreadablePhoto .. | .unwritable .. => .resource
  | .dataFormat .. | .dataNotMapping _ | .dataFields .. => .data

/-- The names that can be chosen, or the word for none. -/
def choices (names : List String) : String :=
  let listed := ", ".intercalate names
  if listed = "" then "无" else listed

/-- The words for a fault. -/
def message : Fault → String
  | .unknownCommand word => "未知命令: " ++ word
  | .missingField => "缺少必填字段"
  | .malformed expected raw => "无法解析为" ++ expected.text ++ ": " ++ Text.quoted raw
  | .noPoints => "至少需要一个点"
  | .pointCount points declared =>
    "点数(" ++ Numeral.integerText points ++ ")与stroke_number(" ++
      Numeral.integerText declared ++ ")不一致"
  | .emptyPolyline => "折线至少需要一个点"
  | .imageSize width height => "图片自然尺寸无效: " ++ width ++ "x" ++ height ++ "mm"
  | .closedPage page => "第" ++ Numeral.integerText page ++ "页已结束，不能再绘制"
  | .unknownVariable value => "未知变量: " ++ value
  | .listAsText value => "列表变量不能用作文本: " ++ value
  | .textAsList value => "文本变量不能用作履历表: " ++ value
  | .noList value => "无法解析的履历表变量: " ++ value
  | .unregisteredFont name available =>
    "字体未注册: " ++ name ++ "（可用: " ++ choices available ++ "）"
  | .unreadableScript path reason =>
    "样式脚本无法读取: " ++ path.text ++ ": " ++ reason.text path.text
  | .unreadableData path reason =>
    "数据文件无法读取: " ++ path.text ++ ": " ++ reason.text path.text
  | .dataFormat path reason => "数据文件YAML格式错误: " ++ path.text ++ ": " ++ reason
  | .dataNotMapping path => "数据文件顶层必须是映射: " ++ path.text
  | .dataFields path problems =>
    "数据文件字段错误: " ++ path.text ++ ": " ++ "; ".intercalate (problems.map Problem.line)
  | .missingFont name path => "字体文件不存在: " ++ name ++ ": " ++ path.text
  | .unloadableFont name path reason =>
    "字体加载失败: " ++ name ++ ": " ++ path.text ++ ": " ++ reason
  | .missingPhoto path => "照片文件不存在: " ++ path.text
  | .unreadablePhoto path reason => "照片读取失败: " ++ path.text ++ ": " ++ reason
  | .unwritable path reason => "PDF写出失败: " ++ path.text ++ ": " ++ reason.text path.text

end Fault

/-- A cause with the place in the script where it arose, as far as it is known. -/
structure Located (ε : Type) where
  cause : ε
  line : Option Int := none
  keyword : Option String := none
  field : Option String := none
  deriving Repr, DecidableEq

namespace Located

variable {ε : Type}

/-- The place filled in where it is not known yet: what is known stays. -/
def locate (e : Located ε) (line : Option Int) (keyword : Option String) : Located ε :=
  { e with line := e.line.or line, keyword := e.keyword.or keyword }

/-- A word of the place, unless it is empty. -/
def mark (label : String) : Option String → List String
  | none | some "" => []
  | some word => [label ++ word]

/-- The words for the place: line, keyword and field, as far as they are known and not empty. -/
def marks (e : Located ε) : List String :=
  (match e.line with
    | none => []
    | some n => ["第" ++ Numeral.integerText n ++ "行"]) ++
  mark "命令 " e.keyword ++ mark "字段 " e.field

/-- The place and the words for the cause. -/
def text (describe : ε → String) (e : Located ε) : String :=
  match e.marks with
  | [] => describe e.cause
  | marks => ", ".intercalate marks ++ ": " ++ describe e.cause

end Located

/-- Why an operation stops. -/
inductive Failure where
  /-- A fault that the user is told about. -/
  | fault (fault : Located Fault)
  /-- The bytes of a file are no text. -/
  | undecodable
  /-- A length is divided by zero. -/
  | divisionByZero
  /-- Text is set in a face that the document does not know. -/
  | unknownFace (name : String)
  /-- A polyline without points is drawn. -/
  | emptyPath
  /-- What should be drawn is no command. -/
  | noCommand
  /-- The file of an image that is drawn cannot be opened. -/
  | unopenedImage
  /-- The file of an image that is drawn holds none. -/
  | noImage
  /-- A document is saved that has been saved before. -/
  | savedBefore
  /-- A text is no number. -/
  | noNumber (raw : String)
  /-- A number, a date or another value of a document cannot be what its notation says. -/
  | badLiteral
  /-- A number is beyond all bounds. -/
  | overflow
  /-- A number that should be written is none. -/
  | undefinedNumber
  /-- An integer has too many digits to be written. -/
  | longInteger
  /-- Collections are nested too deep. -/
  | tooDeep
  /-- A document has no valid notation. -/
  | badDocument (reason : String)
  /-- Of the values of a document, a logical word is none of the known ones. -/
  | unknownWord
  /-- A notation with a sign or digits is empty. -/
  | emptyLiteral
  /-- A key that has to be a text is something else. -/
  | keyNotText
  /-- What should be a mapping is something else. -/
  | notMapping
  /-- What should be a text is something else. -/
  | notText
  /-- What should hold names is something else. -/
  | notContainer
  /-- An environment variable for a section is not written as it must be. -/
  | badSetting
  /-- Values have the wrong form. -/
  | invalid (problems : List Problem)
  /-- A name of a log level is unknown. -/
  | unknownLevel (name : String)
  /-- The system refuses a file. -/
  | system (reason : SystemFault) (path : Path)
  deriving Repr, DecidableEq

/-- A cause without a place as a failure. -/
def Fault.toFailure (fault : Fault) : Failure := .fault ⟨fault, none, none, none⟩

/-- The failure with its place filled in, if it is a fault. -/
def Failure.locate (line : Option Int) (keyword : Option String) : Failure → Failure
  | .fault e => .fault (e.locate line keyword)
  | failure => failure

end Rirekisho

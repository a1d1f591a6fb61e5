import Rirekisho.Fault

namespace Rirekisho

/-- How much a report matters. -/
inductive Level where
  | debug
  | info
  | warning
  | error
  | critical
  deriving Repr, DecidableEq

namespace Level

/-- The rank of a level. -/
def rank : Level → Nat
  | .debug => 10
  | .info => 20
  | .warning => 30
  | .error => 40
  | .critical => 50

/-- The word for a level. -/
def name : Level → String
  | .debug => "DEBUG"
  | .info => "INFO"
  | .warning => "WARNING"
  | .error => "ERROR"
  | .critical => "CRITICAL"

/-- The rank from which on reports are kept, by the name of a level. Some levels have two names, and
one stands for all reports. -/
def threshold? : String → Option Nat
  | "CRITICAL" | "FATAL" => some critical.rank
  | "ERROR" => some error.rank
  | "WARNING" | "WARN" => some warning.rank
  | "INFO" => some info.rank
  | "DEBUG" => some debug.rank
  | "NOTSET" => some 0
  | _ => none

end Level

/-- The stages of a run, in their order. -/
inductive Stage where
  | loadData
  | parseStyle
  | render
  | save
  deriving Repr, DecidableEq

/-- The name of a stage. -/
def Stage.name : Stage → String
  | .loadData => "LOAD_DATA"
  | .parseStyle => "PARSE_STYLE"
  | .render => "RENDER"
  | .save => "SAVE"

/-- A report. -/
inductive Report where
  | stageStarted (stage : Stage)
  | stageFailed (stage : Stage) (failure : Failure)
  | dataLoaded (path : Path)
  | scriptRead (path : Path)
  | scriptParsed (commands : Nat)
  | yearMonthBoxSkipped (title : String)
  | miscBoxSkipped (title : String)
  | rendered (commands : Nat)
  | saved (path : Path) (pages : Nat)
  | finished (path : Path)
  deriving Repr, DecidableEq

namespace Report

/-- How much the report matters. -/
def level : Report → Level
  | .stageFailed .. => .error
  | .yearMonthBoxSkipped _ | .miscBoxSkipped _ => .warning
  | _ => .info

/-- The words for a failed stage: those for the fault follow, if it is one. -/
def failureText (stage : Stage) : Failure → String
  | .fault e => "阶段失败 " ++ stage.name ++ ": " ++ e.text Fault.message
  | _ => "阶段失败 " ++ stage.name

/-- The words of a report, with those for the time that the run took. -/
def text (elapsed : String) : Report → String
  | .stageStarted stage => "开始阶段: " ++ stage.name
  | .stageFailed stage failure => failureText stage failure
  | .dataLoaded path => "数据文件加载完成: " ++ path.text
  | .scriptRead path => "读取样式脚本: " ++ path.text
  | .scriptParsed commands => "样式脚本解析完成: " ++ Numeral.integerText commands ++ " 条命令"
  | .yearMonthBoxSkipped title => "ymbox 暂不绘制: " ++ title
  | .miscBoxSkipped title => "miscbox 暂不绘制: " ++ title
  | .rendered commands => "渲染完成: " ++ Numeral.integerText commands ++ " 条命令"
  | .saved path pages =>
    "PDF已写出: " ++ path.text ++ " (" ++ Numeral.integerText pages ++ "页)"
  | .finished path => "完成: " ++ path.text ++ " (" ++ elapsed ++ ")"

/-- The report as a line: its level and its words. -/
def line (elapsed : String) (report : Report) : String :=
  report.level.name ++ " " ++ report.text elapsed

end Report

end Rirekisho

import PropertyStore.Document.Parse
import PropertyStore.Files.Fault
import PropertyStore.Number
import PropertyStore.Text.Quoted

namespace PropertyStore

/-- Faults of loading, saving and reading properties. -/
inductive Fault where
  | emptyPath
  | noDefaultPath
  /-- The path names no regular file. -/
  | unreadable (path : String)
  /-- A read failed before the end of the data. -/
  | readFailed (cause : String)
  | malformed (fault : Document.Malformed)
  | writeFailed (path : String) (cause : Files.Fault)
  /-- The file exists but could not be loaded, so saving would lose what it holds. -/
  | unsafeOverwrite (path reason : String)
  /-- An expression without `=`. -/
  | badExpression (text : String)
  | missing (key : String)
  | badNumber (key value : String) (cause : NumberFault)
  deriving Repr, DecidableEq

def Fault.message : Fault → String
  | .emptyPath => "属性文件路径为空"
  | .noDefaultPath => "无法确定用户主目录，默认属性文件路径不可用"
  | .unreadable path => s!"属性文件不存在或不可读: {path}"
  | .readFailed cause => s!"属性加载失败: {cause}"
  | .malformed fault => s!"属性文件解析失败(第{fault.line}行): {fault.message}"
  | .writeFailed path cause => s!"属性保存失败: {path}: {cause.message}"
  | .unsafeOverwrite path reason => s!"属性文件加载失败，拒绝覆盖: {path}: {reason}"
  | .badExpression text => s!"错误的属性表达式: {Text.quoted text}"
  | .missing key => s!"必需属性 '{key}' 不存在"
  | .badNumber key value _ => s!"属性 '{key}' 的值 {Text.quoted value} 不是合法的整数"

inductive Failure where
  | store (fault : Fault)
  /-- A default that is not a number of the width asked for. -/
  | badDefault (width : Width) (cause : NumberFault)
  deriving Repr, DecidableEq

def Failure.message : Failure → String
  | .store fault => s!"配置错误: {fault.message}"
  | .badDefault .int cause => s!"其他错误: 默认值不是合法的整数: {cause.message}"
  | .badDefault .long cause => s!"其他错误: 默认值不是合法的长整数: {cause.message}"

end PropertyStore

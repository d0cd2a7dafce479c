import PropertyStore.Usage.Form

namespace PropertyStore.Usage

def helpText : String := "\n".intercalate [
  "用法: propstore [选项] <命令>",
  "",
  "命令:",
  "  get <KEY> [-d <VALUE>] [-t string|int|long|bool]   读取属性",
  "  set <KEY=VALUE>...                                 设置属性并保存",
  "  remove <KEY>...                                    删除属性并保存",
  "  list [-f text|json]                                列出所有属性",
  "  check <KEY>...                                     检查必需属性是否存在",
  "  clear                                              清空所有属性并保存",
  "  version [-f text|json]                             显示版本信息",
  "",
  "选项:",
  "  -f, --file <FILE>               属性文件路径（默认为用户主目录下的 .propstore）",
  "  -l, --log-level <LEVEL>         日志级别: debug, info, warn, error（默认 warn）",
  "      --log-file <FILE>           日志写入文件（追加），不再输出到标准错误",
  "      --log-format <FORMAT>       日志格式: text, json（默认 text）",
  "  -v, --verbose                   启用详细输出",
  "  -h, --help                      显示帮助",
  "  -V, --version                   显示版本",
  ""]

def Refusal.reason : Refusal → String
  | .invalidValue => "invalid or missing value for an option"
  | .unknownArgument => "unexpected argument"
  | .invalidCommand => "unrecognized command"
  | .argumentConflict => "an option is given more than once"
  | .missingOperand => "a required operand is not given"
  | .missingCommand => "a command is required but none is given"
  | .tooManyValues => "unexpected value for an option that takes none"
  | .help | .version | .nothingAsked => ""

def Refusal.text (refusal : Refusal) (name version : String) : String :=
  match refusal with
  | .help | .nothingAsked => helpText
  | .version => s!"{name} {version}\n"
  | _ => s!"error: {refusal.reason}\n\nFor more information, try '--help'.\n"

end PropertyStore.Usage

/-!
# Log records

What a run tells about its progress. A record names the part of the program that it comes from.
-/

namespace ZigBindings

def programName : String :=
  "girgen"

inductive LogLevel where
  | debug
  | info
  deriving DecidableEq

def LogLevel.text : LogLevel → String
  | .debug => "DEBUG"
  | .info => "INFO"

/-- The full name of a part of the program; the program itself is the part without a name. -/
def loggerName (part : String) : String :=
  if part = "" then programName else programName ++ "." ++ part

structure LogRecord where
  level : LogLevel
  part : String
  message : String
  deriving DecidableEq

def LogRecord.text (record : LogRecord) : String :=
  record.level.text ++ " " ++ loggerName record.part ++ " " ++ record.message

def LogRecord.consoleText (record : LogRecord) : String :=
  "[" ++ programName ++ "] " ++ record.level.text ++ " " ++ record.message

/-- The record that a parameter list is open at its end, which cannot be expressed. -/
def LogRecord.variadic (parameter : String) : LogRecord :=
  ⟨.debug, "type_mapper", "Variadic parameter " ++ parameter ++ " is not supported"⟩

def LogRecord.cached (name : String) : LogRecord :=
  ⟨.debug, "repository", "Using cached repository " ++ name⟩

def LogRecord.parsing (path : String) : LogRecord :=
  ⟨.info, "repository", "Parsing " ++ path⟩

/-- The record that a module was written, with the number of its characters. -/
def LogRecord.wrote (path : String) (length : Nat) : LogRecord :=
  ⟨.debug, "translator", "Wrote " ++ path ++ " (" ++ toString length ++ " bytes)"⟩

end ZigBindings

/-!
# Log records

What the scheduler reports while it works: a level and a text.
-/

namespace GreenThreads

inductive LogLevel where
  | error
  | warn
  | info
  | debug
  | trace
deriving DecidableEq

namespace LogLevel

def name : LogLevel → String
  | error => "ERROR"
  | warn => "WARN"
  | info => "INFO"
  | debug => "DEBUG"
  | trace => "TRACE"

def rank : LogLevel → Nat
  | error => 1
  | warn => 2
  | info => 3
  | debug => 4
  | trace => 5

end LogLevel

structure LogRecord where
  level : LogLevel
  text : String
deriving DecidableEq

end GreenThreads

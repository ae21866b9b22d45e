import ShaderPipeline.Client
import ShaderPipeline.Glslify

namespace ShaderPipeline.Command

inductive Request where
  | readFile (path : Text)
  | writeFile (path : Text) (bytes : List UInt8)
  | print (text : Text)
  | logFrom (level : Level)
  | log (level : Level) (text : Text)
  | run (command : List Text) (input : Text)

abbrev Request.Answer : Request → Type
  | .readFile _ => List UInt8
  | .writeFile _ _ => Unit
  | .print _ => Unit
  | .logFrom _ => Unit
  | .log _ _ => Unit
  | .run _ _ => Glslify.Run

abbrev Program (W α : Type) := Client Request Request.Answer W α

variable {W : Type}

def ask (r : Request) : Program W r.Answer := .request r

instance : Journal (Client Request Request.Answer W) where
  note level text := ask (.log level text)

def levelRank : Level → Nat
  | .debug => 0
  | .info => 1
  | .warning => 2
  | .error => 3

def levelName : Level → Text
  | .debug => "DEBUG".toList
  | .info => "INFO".toList
  | .warning => "WARNING".toList
  | .error => "ERROR".toList

def logLine (level : Level) (text : Text) : Text := '[' :: levelName level ++ "] ".toList ++ text

end ShaderPipeline.Command

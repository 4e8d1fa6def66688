import PropFormula.Launcher

namespace PropFormula

section
variable {m : Type → Type} [Monad m] [Host m]

-- It fails with the errors it was made with, if there are any. It serves to try out a launcher.
def announce (name : String) (failure : List String) (received : Received) : m (Except ErrorChain Unit) := do
  let word := (received.value? "WORD").getD "nothing"
  Level.all.forM (fun level => Host.log level (level.word ++ " " ++ word))
  match (← Host.write .console (name ++ " " ++ word ++ "\n")) with
  | .error cause => return .error ⟨cause.message,[]⟩
  | .ok () =>
    match failure with
    | [] => return .ok ()
    | outermost :: causes => return .error ⟨outermost,causes⟩

def announcer (name typed : String) (failure : List String) : Command m where
  name := name
  grammar := ⟨typed,"",[],[],some "WORD"⟩
  execute := announce name failure

end
end PropFormula

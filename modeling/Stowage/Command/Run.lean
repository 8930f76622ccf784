import Stowage.Command.Basic
import Stowage.Command.Output
import Stowage.Config.Load
import Stowage.Log.Logger
import Stowage.Service.Wiring

/-!
Running a command: settings are loaded, logging is set up, the service is connected, the command is
carried out, and its result or its failure is written.

Failures of the kinds that `ExitStatus.of?` knows are told on standard error and decide how the
process ends; any other leaves `CommandLine.run` as it is. The service is shut down in every case.
-/

namespace Stowage

/-- How the process ends after a failure, if commands tell of failures of that kind. -/
def ExitStatus.of? (failure : Failure) : Option ExitStatus :=
  if failure.isPrecondition || failure.isA .valueError then some .precondition
  else if failure.isStorage then some .storage
  else none

/-- What a command finds when it starts: the files, by their paths, and the variables. -/
structure Surroundings where
  file : String → Config.File := fun _ => .absent
  environment : List (String × String) := []

namespace Surroundings

/-- The variable that names the configuration file when no option does. -/
def pathVariable : String := "STOWAGE_CONFIG_PATH"

/-- The configuration file: that of the option, else that of the variable unless it is empty. The
path `home` stands for the file that is read when neither names one. -/
def configPath (s : Surroundings) (home : String) (option : Option String) : String :=
  match option, s.environment.lookup pathVariable with
  | some path, _ => Value.plainPath path
  | none, some "" => home
  | none, some path => Value.plainPath path
  | none, none => home

/-- The sources of configuration of a command. -/
def sources (s : Surroundings) (option : Option String) : Config.Sources :=
  let given : Config.Sources := { environment := s.environment }
  let path := s.configPath given.path option
  { given with path, file := s.file path }

end Surroundings

namespace Command

/-- Carry out a command. -/
def perform (service : NetworkService) : Command → Flow World Value
  | .create owner type factor => do
    pure (Model.toValue (← service.create owner type factor))
  | .close containerId => do
    let record ← service.get containerId
    service.close containerId record.pipeline
    pure .null
  | .delete containerId force => do
    let record ← service.get containerId
    service.delete containerId record.pipeline (some force)
    pure .null
  | .info containerId => do
    let record ← service.get containerId
    let data ← service.read containerId record.pipeline
    pure (.mapping [
      (.text "record", Model.toValue record),
      (.text "container_data", Model.toValue data)])
  | .list start count => do
    pure (.list ((← service.list start count).map Model.toValue))
  | .size containerId => do
    pure (.int (← service.size containerId))

end Command

namespace CommandLine

/-- Load the settings, set logging up, and connect the service. -/
def prepare (surroundings : Surroundings) (line : CommandLine) : Flow World NetworkService := do
  let settings ← Flow.ofExcept (Config.loadSettings (surroundings.sources line.configPath))
  Log.configureFrom settings.logging line.logLevel
  Service.connect settings (Instrument.telemetry 0 .silent .silent)

/-- Tell of a failure. One that commands do not tell of stays as it is, and one that cannot be told
is followed by the failure to tell it. -/
def tell (line : CommandLine) (failure : Failure) : Flow World ExitStatus :=
  match ExitStatus.of? failure with
  | none => throw failure
  | some status => do
    let text ← Flow.ofExcept (Command.errorOutput line.asJson failure)
    Flow.record (.complained text)
    pure status

/-- A computation, or how the process ends when it failed and its failure has been told. -/
def telling {α : Type} (line : CommandLine) (body : Flow World α) :
    Flow World (Except ExitStatus α) := do
  match ← body.attempt with
  | .ok a => pure (.ok a)
  | .error failure => pure (.error (← line.tell failure))

/-- Run a command line. The result is written when the service has been shut down. -/
def run (surroundings : Surroundings) (line : CommandLine) : Flow World ExitStatus := do
  match ← line.telling (line.prepare surroundings) with
  | .error status => pure status
  | .ok service =>
    match ← Flow.andFinally (line.telling (line.command.perform service)) service.shutDown with
    | .error status => pure status
    | .ok result =>
      let text ← Flow.ofExcept (Command.output line.asJson result)
      Flow.record (.printed text)
      pure .success

end CommandLine

end Stowage

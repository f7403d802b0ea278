import Tapline.Logger.Basic
import Tapline.Stream.Host
import Tapline.Template.Compile
/-!
# Opening a logger

Settings and a registry say which sinks a logger has: one on the terminal, then one on a rolling
file. Everything that can be refused without touching the disk is refused first: settings that
cannot work, then a registry that claims a reserved character.
-/

namespace Tapline

/-- What came of opening a logger. -/
structure LoggerOpening where
  result : Except PipelineError (Logger HostStream)
  host : Host
  notices : List Notice

namespace Logger

/-- The sink on the terminal, if the settings ask for one. -/
def terminalSinks (settings : Settings) (registry : Registry) :
    Except PipelineError (List (Sink HostStream)) :=
  if settings.stdout then
    match Template.compile settings.stdoutPattern registry with
    | .error cause => .error (.setup cause)
    | .ok template => .ok [⟨template, .direct .terminal, false⟩]
  else .ok []

/-- Adds the sink on the log file to a logger. -/
def addFileSink (logger : Logger HostStream) (settings : Settings) (template : Template)
    (host : Host) : LoggerOpening :=
  match RollingFile.openIn settings.directory settings.fileName settings.rollingLimits host.disk with
  | (.error (.refused fault), disk) => ⟨.error (.sink (.io fault)), { host with disk }, []⟩
  | (.error (.crashed cause), disk) =>
    ⟨.error (.sink .flusherDead), { host with disk }, [.fatal cause]⟩
  | (.ok file, disk) =>
    let (sink, host) :=
      Sink.ofStreamIn template (HostStream.rolling file) settings.delivery { host with disk }
    ⟨.ok ⟨logger.sinks ++ [sink]⟩, host, [.opened settings.filePath sink.isBuffered]⟩

/-- Opens the sinks that settings describe. -/
def ofSettings (settings : Settings) (registry : Registry) (host : Host) : LoggerOpening :=
  match settings.validate with
  | .error cause => ⟨.error (.setup (.invalid cause)), host, []⟩
  | .ok () =>
    match terminalSinks settings registry with
    | .error cause => ⟨.error cause, host, []⟩
    | .ok sinks =>
      if settings.fileEnabled then
        match Template.compile settings.filePattern registry with
        | .error cause => ⟨.error (.setup cause), host, []⟩
        | .ok template => addFileSink ⟨sinks⟩ settings template host
      else ⟨.ok ⟨sinks⟩, host, []⟩

end Logger

end Tapline

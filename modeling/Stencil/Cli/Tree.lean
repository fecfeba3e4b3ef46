import Stencil.Cli.Command
/-!
# The commands of the program

The program `montauk` compiles and renders the views of the project around the directory it runs
in. Its root passes three flags down to every command: the directory to look up the settings from,
the form of the log, and whether to trace operations. The commands compile views, render one,
send a route to the application, watch the templates, show or clear the cache, describe how a view
relates to the others, and print the version; help and shell completion come with every program.
-/

namespace Stencil.Cli

/-- The flag naming the directory to look up the settings from. -/
def dirFlag : Flag :=
  { name := "dir", short := some 'C', kind := .text, usage := "Directory to look up montauk.yaml from" }

/-- The flag choosing the form of the log. -/
def logFormatFlag : Flag :=
  { name := "log-format", kind := .text, usage := "Log format: auto, pretty or json",
    defaultText := "auto" }

/-- The switch tracing operations. -/
def traceFlag : Flag :=
  { name := "trace", kind := .switch, usage := "Log a line for every traced operation" }

/-- The flag giving a tag value, once per tag. -/
def tagFlag : Flag :=
  { name := "tag", short := some 't', kind := .texts, usage := "Tag value as key=value (repeatable)" }

/-- The shells completion scripts are written for, with the long description of each. -/
def shells (name : String) : List (String × String) :=
  [("bash", "Generate the autocompletion script for the bash shell.\n\n" ++
      "This script depends on the 'bash-completion' package.\n" ++
      "If it is not installed already, you can install it via your OS's package manager.\n\n" ++
      "To load completions in your current shell session:\n\n\tsource <(" ++ name ++
      " completion bash)\n\nTo load completions for every new session, execute once:\n\n" ++
      "#### Linux:\n\n\t" ++ name ++ " completion bash > /etc/bash_completion.d/" ++ name ++
      "\n\n#### macOS:\n\n\t" ++ name ++ " completion bash > $(brew --prefix)/etc/bash_completion.d/" ++
      name ++ "\n\nYou will need to start a new shell for this setup to take effect.\n"),
   ("zsh", "Generate the autocompletion script for the zsh shell.\n\n" ++
      "If shell completion is not already enabled in your environment you will need\n" ++
      "to enable it.  You can execute the following once:\n\n" ++
      "\techo \"autoload -U compinit; compinit\" >> ~/.zshrc\n\n" ++
      "To load completions in your current shell session:\n\n\tsource <(" ++ name ++
      " completion zsh)\n\nTo load completions for every new session, execute once:\n\n" ++
      "#### Linux:\n\n\t" ++ name ++ " completion zsh > \"$\x7bfpath[1]\x7d/_" ++ name ++
      "\"\n\n#### macOS:\n\n\t" ++ name ++ " completion zsh > $(brew --prefix)/share/zsh/site-functions/_" ++
      name ++ "\n\nYou will need to start a new shell for this setup to take effect.\n"),
   ("fish", "Generate the autocompletion script for the fish shell.\n\n" ++
      "To load completions in your current shell session:\n\n\t" ++ name ++
      " completion fish | source\n\nTo load completions for every new session, execute once:\n\n\t" ++
      name ++ " completion fish > ~/.config/fish/completions/" ++ name ++
      ".fish\n\nYou will need to start a new shell for this setup to take effect.\n"),
   ("powershell", "Generate the autocompletion script for powershell.\n\n" ++
      "To load completions in your current shell session:\n\n\t" ++ name ++
      " completion powershell | Out-String | Invoke-Expression\n\n" ++
      "To add this command to your profile, run the command above and then\n" ++
      "add its output to your powershell profile.\n")]

/-- The switch leaving descriptions out of completion scripts. -/
def noDescriptionsFlag : Flag :=
  { name := "no-descriptions", kind := .switch, usage := "disable completion descriptions" }

/-- The commands of the program, the root first, in the order they are added. -/
def commands : List Command :=
  [{ path := [], use := "montauk", short := "A view templating engine for server-rendered HTML",
     runnable := false, persistent := [dirFlag, logFormatFlag, traceFlag] },
   { path := ["compile"], use := "compile [views...]", short := "Compile views and write the view cache",
     long := "Compile the named views, or every view when none are named, and persist the result.",
     flags := [{ name := "fresh", kind := .switch,
                 usage := "Rescan templates instead of starting from the view cache" }] },
   { path := ["render"], use := "render <view>", short := "Render a compiled view with tag values",
     args := .exactly 1, flags := [tagFlag] },
   { path := ["dispatch"], use := "dispatch <route>", short := "Run the application action for a route",
     args := .exactly 1, flags := [tagFlag] },
   { path := ["watch"], use := "watch", short := "Recompile views as their templates change",
     args := .nothing,
     flags := [{ name := "dashboard", short := some 'd', kind := .switch,
                 usage := "Show reloads in a terminal dashboard" }] },
   { path := ["cache"], use := "cache", short := "Inspect or remove the view cache", runnable := false },
   { path := ["cache", "show"], use := "show", short := "Print the encoded view cache", args := .nothing },
   { path := ["cache", "clear"], use := "clear", short := "Remove the view cache", args := .nothing },
   { path := ["deps"], use := "deps <view>",
     short := "Show what a view includes and what is rebuilt when it changes", args := .exactly 1 },
   { path := ["version"], use := "version", short := "Print the application version" },
   { path := ["help"], use := "help [command]", short := "Help about any command",
     long := "Help provides help for any command in the application.\n" ++
       "Simply type montauk help [path to command] for full details.", choices := .commands },
   { path := ["completion"], use := "completion",
     short := "Generate the autocompletion script for the specified shell",
     long := "Generate the autocompletion script for montauk for the specified shell.\n" ++
       "See each sub-command's help for details on how to use the generated script.\n",
     args := .nothing, runnable := false, choices := .nothing }] ++
  (shells "montauk").map fun (shell, long) =>
    { path := ["completion", shell], use := shell,
      short := "Generate the autocompletion script for " ++ shell, long,
      args := .nothing, bareUse := shell == "bash", flags := [noDescriptionsFlag], choices := .nothing }

/-- The program: its commands and the version it reports. -/
def program : Program :=
  ⟨commands, "dev (commit: none, date: unknown)"⟩

end Stencil.Cli

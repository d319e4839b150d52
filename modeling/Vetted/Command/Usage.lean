namespace Vetted.Command

def programName : String := "validgen"

def unlines (lines : List String) : String := String.join (lines.map (· ++ "\n"))

/-- How the program is called. -/
def usageLines : List String :=
  ["usage: validgen [-h] [-c CONFIG] [--variant \x7bdirect,newtype\x7d]",
    "                [--output-suffix OUTPUT_SUFFIX] [--no-format] [--check]",
    "                [--stdout] [-v] [--no-color]",
    "                [FILE ...]"]

def usage : String := unlines usageLines

def optionLines : List String :=
  ["",
    "Generate validated domain records and validate-then-convert functions from",
    "tagged *Input dataclass declarations.",
    "",
    "positional arguments:",
    "  FILE                  Declaration files to process. Overrides input_files",
    "                        from the config file.",
    "",
    "options:",
    "  -h, --help            show this help message and exit",
    "  -c CONFIG, --config CONFIG",
    "                        Path to the YAML configuration file.",
    "  --variant \x7bdirect,newtype\x7d",
    "                        Output variant: plain field copies or one NewType",
    "                        wrapper per field.",
    "  --output-suffix OUTPUT_SUFFIX",
    "                        Suffix appended to the declaration file stem for the",
    "                        generated module.",
    "  --no-format           Do not run Black on the generated code.",
    "  --check               Exit with status 1 if any generated file is missing or",
    "                        out of date. Writes nothing.",
    "  --stdout              Print generated modules instead of writing them.",
    "  -v, --verbose         Enable verbose DEBUG logging.",
    "  --no-color            Disable colored output (useful for CI/CD",
    "                        environments)."]

def help : String := unlines (usageLines ++ optionLines)

end Vetted.Command

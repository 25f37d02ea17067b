import Requirements.Pattern.Converter

/-!
# The known patterns

Each software policy defines patterns of its own; several names may stand for one
converter. The offline policies and those of the detectors' common software are
used together.
-/

namespace Requirements.Catalogue

/-- The patterns of the offline software. -/
def offline : List (String × Converter) :=
  [("installed_library", .library "library" .atlasLibrary false),
   ("named_installed_library", .library "library" .atlasLibrary false),
   ("component_library", .library "library" .atlasComponent false),
   ("named_component_library", .library "library" .atlasComponent false),
   ("dual_use_library", .library "library" .atlasDualUseLibrary true),
   ("named_dual_use_library", .library "library" .atlasDualUseLibrary true),
   ("tpcnv_library", .library "name" .atlasTpcnv false),
   ("named_tpcnv_library", .library "name" .atlasTpcnv false),
   ("declare_joboptions",
     .install "install-jobos" .atlasInstallJoboptions ["share/*.py", "share/*.txt"]),
   ("declare_python_modules",
     .install "install-py" .atlasInstallPythonModules ["python/*.py"]),
   ("declare_scripts", .install "install-scripts" .atlasInstallScripts ["scripts/*"]),
   ("declare_xmls", .install "install-xmls" .atlasInstallXmls ["xml/*"]),
   ("declare_data", .install "install-data" .atlasInstallData ["data/*"]),
   ("generic_declare_for_link", .genericInstall .atlasGenericInstall),
   ("UnitTest_run", .unitTest),
   ("athenarun_test", .athenarunTest),
   ("lcgdict", .dictionary),
   ("declare_job_transforms", .jobTransforms)]

/-- The patterns of the detectors' common software. -/
def detectorCommon : List (String × Converter) :=
  [("detcommon_shared_library", .sharedLibrary),
   ("detcommon_shared_generic_library", .sharedLibrary),
   ("detcommon_shared_named_library", .sharedLibrary),
   ("detcommon_header_installer", .install "install-headers" .detcommonInstallHeaders []),
   ("trigconf_application", .trigconfApplication),
   ("trigconf_generic_application", .trigconfApplication),
   ("detcommon_generic_install", .genericInstall .detcommonGenericInstall),
   ("detcommon_link_files", .genericInstall .detcommonGenericInstall),
   ("detcommon_copy_files", .genericInstall .detcommonGenericInstall),
   ("detcommon_install_docs", .genericInstall .detcommonGenericInstall)]

/-- The patterns of the online software. -/
def online : List (String × Converter) :=
  [("install_data", .install "install-data" .tdaqInstallData ["data/*"]),
   ("install_headers", .install "install-headers" .tdaqInstallHeaders []),
   ("install_scripts", .install "install-scripts" .tdaqInstallScripts ["scripts/*"])]

end Requirements.Catalogue

namespace CloudCensus.Kind

def organization : String := "cloudresourcemanager.googleapis.com/Organization"
def folder : String := "cloudresourcemanager.googleapis.com/Folder"
def project : String := "cloudresourcemanager.googleapis.com/Project"
def instanceVm : String := "compute.googleapis.com/Instance"
def firewall : String := "compute.googleapis.com/Firewall"
def disk : String := "compute.googleapis.com/Disk"
def network : String := "compute.googleapis.com/Network"
def subnetwork : String := "compute.googleapis.com/Subnetwork"
def dnsPolicy : String := "dns.googleapis.com/Policy"
def bucket : String := "storage.googleapis.com/Bucket"
def serviceAccount : String := "iam.googleapis.com/ServiceAccount"
def serviceAccountKey : String := "iam.googleapis.com/ServiceAccountKey"
def cluster : String := "container.googleapis.com/Cluster"
def logSink : String := "logging.googleapis.com/LogSink"
def logMetric : String := "logging.googleapis.com/LogMetric"
def alertPolicy : String := "monitoring.googleapis.com/AlertPolicy"
def service : String := "serviceusage.googleapis.com/Service"

end CloudCensus.Kind
